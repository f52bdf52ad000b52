import MessageBus.Proofs.Frame
import MessageBus.Proofs.Plan

/-! What a startup does to a store, from what its single registrations do. A relation between stores
that is reflexive and transitive, and in which every write of the registrar that succeeds leads from
each store to a related one, relates the store before a startup to the one after it: a startup that
fails leaves nothing of its writes. -/
namespace MessageBus.Store
open StartupPlan

/-- A registration in a store. -/
abbrev Registering (α : Type) := ExceptT StoreError (StateM Store) α

/-- From every store the registration leads to a related one when it succeeds. -/
def Leads (R : Store → Store → Prop) {α : Type} (m : Registering α) : Prop :=
  ∀ s a t, m.run s = (.ok a, t) → R s t

/-- What leads to a related store in any case does so when it succeeds. -/
theorem Leads.always {R : Store → Store → Prop} {α : Type} {m : Registering α}
    (h : ∀ s, R s (m.run s).2) : Leads R m := by
  intro s a t done
  have always := h s
  rwa [done] at always

theorem Leads.failed {R : Store → Store → Prop} {α : Type} (e : StoreError) :
    Leads R (throw e : Registering α) := by
  rintro s _ _ ⟨⟩

section
variable {α β : Type} {m : Registering α} {f : α → Registering β} {s t u : Store}

theorem run_bind (m : Registering α) (f : α → Registering β) (s : Store) :
    (m >>= f).run s = match m.run s with
      | (.ok a, t) => (f a).run t
      | (.error e, t) => (.error e, t) := by
  change (ExceptT.bindCont f (m.run s).1).run (m.run s).2 = _
  match m.run s with
  | (.ok a, t) => rfl
  | (.error e, t) => rfl

theorem run_bind_of_ok {a : α} (h : m.run s = (.ok a, t)) : (m >>= f).run s = (f a).run t := by
  rw [run_bind, h]

theorem run_bind_of_error {e : StoreError} (h : m.run s = (.error e, t)) :
    (m >>= f).run s = (.error e, t) := by
  rw [run_bind, h]

/-- A sequence that succeeds is two steps that succeed. -/
theorem run_bind_eq_ok {b : β} (h : (m >>= f).run s = (.ok b, u)) :
    ∃ a t, m.run s = (.ok a, t) ∧ (f a).run t = (.ok b, u) := by
  match first : m.run s with
  | (.error e, t) =>
    rw [run_bind_of_error first] at h
    cases h
  | (.ok a, t) =>
    rw [run_bind_of_ok first] at h
    exact ⟨a, t, rfl, h⟩

end

/-- The relation holds along every write of a registrar, and so along sequences of them. -/
structure WritesLead (R : Store → Store → Prop)
    (r : Registrar (ExceptT StoreError (StateM Store))) : Prop where
  refl : ∀ s, R s s
  trans : ∀ {s t u}, R s t → R t u → R s u
  host : ∀ host, Leads R (r.host host)
  hostRuntime : ∀ runtime, Leads R (r.hostRuntime runtime)
  scenario : ∀ scenario, Leads R (r.scenario scenario)
  messageType : ∀ spec, Leads R (r.messageType spec)
  messageTypeByName : ∀ name, Leads R (r.messageTypeByName name)
  publisher : ∀ row, Leads R (r.publisher row)
  subscriber : ∀ row, Leads R (r.subscriber row)
  job : ∀ row, Leads R (r.job row)
  start : ∀ record, Leads R (r.start record)

namespace WritesLead
variable {R : Store → Store → Prop} {r : Registrar (ExceptT StoreError (StateM Store))}
variable (w : WritesLead R r) {α β : Type}
include w

theorem done (a : α) : Leads R (pure a : Registering α) := by
  rintro s _ _ ⟨⟩
  exact w.refl s

theorem andThen {m : Registering α} {f : α → Registering β} (first : Leads R m)
    (next : ∀ a, Leads R (f a)) : Leads R (m >>= f) := by
  intro s b u done
  obtain ⟨a, t, here, rest⟩ := run_bind_eq_ok done
  exact w.trans (first s a t here) (next a t b u rest)

theorem findType (name : String) : Leads R (findType r name) := by
  refine w.andThen (w.messageTypeByName name) fun found => ?_
  cases found with
  | some row => exact w.done row
  | none => exact Leads.failed _

/-- What holds along every write holds along whole registrations. -/
theorem inherited : Inherited (fun _ => Leads R) r where
  done := w.done
  failed := Leads.failed
  andThen := w.andThen
  host := w.host
  hostRuntime := w.hostRuntime
  scenario := w.scenario
  messageType := w.messageType
  findType := w.findType
  publisher := w.publisher
  subscriber := w.subscriber
  job := w.job
  start := w.start

end WritesLead

/-- A startup leads to a related store: to the one after its last write, or to none other. -/
theorem startUp_leads {R : Store → Store → Prop} (w : WritesLead R registrar) (s : Store)
    (plan : StartupPlan) (now : Instant) : R s (s.startUp plan now).2 := by
  unfold startUp
  split
  · next done => exact w.inherited.carryOut plan now s _ _ done
  · exact w.refl s

/-! The calls that register something, one by one or all at once. -/

def Call.isRegistration : Call → Bool
  | .startUp .. | .registerHost .. | .startHostRuntime .. | .registerScenario ..
  | .registerMessageType .. | .registerPublisher .. | .registerSubscriber .. | .registerJob .. => true
  | _ => false

/-- An operation that changes nothing when it fails leads to a related store in any case. -/
theorem Leads.total {R : Store → Store → Prop} {α : Type} {m : Registering α} (lead : Leads R m)
    (refl : ∀ s, R s s) {s : Store} (keeps : ∀ e, (m.run s).1 = .error e → (m.run s).2 = s) :
    R s (m.run s).2 := by
  cases ends : (m.run s).1 with
  | ok a => exact lead s a _ (Prod.ext ends rfl)
  | error e =>
    rw [keeps e ends]
    exact refl s

/-- Every registration leads to a related store, whether it succeeds or fails. -/
theorem registration_leads {R : Store → Store → Prop} (w : WritesLead R registrar) {call : Call}
    (h : call.isRegistration = true) (s : Store) (fresh : Fresh) :
    R s (s.perform fresh call).2 := by
  cases call with
  | startUp plan now => exact startUp_leads w s plan now
  | registerHost host => exact (w.host host).total w.refl fun _ => attempt_unchanged
  | startHostRuntime runtime => exact (w.hostRuntime runtime).total w.refl fun _ => attempt_unchanged
  | registerScenario scenario => exact (w.scenario scenario).total w.refl fun _ => attempt_unchanged
  | registerMessageType spec => exact (w.messageType spec).total w.refl fun _ => attempt_unchanged
  | registerPublisher scenario spec =>
    simp only [perform, registerPublisher]
    split
    · exact w.refl s
    · exact (w.publisher _).total w.refl fun _ => attempt_unchanged
  | registerSubscriber scenario spec =>
    simp only [perform, registerSubscriber]
    split
    · exact w.refl s
    · exact (w.subscriber _).total w.refl fun _ => attempt_unchanged
  | registerJob scenario spec =>
    simp only [perform, registerJob]
    split
    · exact w.refl s
    · exact (w.job _).total w.refl fun _ => attempt_unchanged
  | _ => cases h

end MessageBus.Store
