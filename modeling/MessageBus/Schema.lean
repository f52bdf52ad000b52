/-! The database schema of a bus: the tables it has, and the statements that make them. Each
statement does nothing where its object is already there. -/
namespace MessageBus.Schema

/-- The name of the schema that holds the tables. -/
def name : String := "bus"

def tables : List String :=
  ["service_bus_host",
    "service_bus_host_runtime",
    "scenario",
    "message_type",
    "publisher",
    "subscriber",
    "job",
    "publisher_instance",
    "subscriber_instance",
    "job_instance",
    "message",
    "subscriber_message",
    "message_temp_queue",
    "snapshot",
    "service_bus_log",
    "publisher_instance_log",
    "subscriber_instance_log",
    "job_instance_log"]

/-- The text of the statements, line by line. -/
def lines : List String := [
  "-- Persistent message bus schema.",
  "--",
  "-- Ticket states:     1 ready, 2 in progress, 3 completed, 4 failed, 5 delayed, 6 suspended",
  "-- Component states:  1 starting, 2 running, 3 stopping, 4 stopped, 5 faulted",
  "-- Log levels:        0 trace .. 5 critical",
  "",
  "CREATE SCHEMA IF NOT EXISTS bus;",
  "",
  "CREATE TABLE IF NOT EXISTS bus.service_bus_host (",
  "    id_service_bus_host UUID PRIMARY KEY,",
  "    name                TEXT NOT NULL",
  ");",
  "",
  "CREATE TABLE IF NOT EXISTS bus.service_bus_host_runtime (",
  "    id_service_bus_host_runtime UUID PRIMARY KEY,",
  "    id_service_bus_host         UUID NOT NULL REFERENCES bus.service_bus_host (id_service_bus_host),",
  "    user_name                   TEXT NOT NULL,",
  "    machine_name                TEXT NOT NULL,",
  "    started_utc                 TIMESTAMPTZ NOT NULL,",
  "    ended_utc                   TIMESTAMPTZ NULL,",
  "    state                       SMALLINT NOT NULL CHECK (state BETWEEN 1 AND 5)",
  ");",
  "",
  "CREATE TABLE IF NOT EXISTS bus.scenario (",
  "    id_scenario UUID PRIMARY KEY,",
  "    name        TEXT NOT NULL UNIQUE",
  ");",
  "",
  "CREATE TABLE IF NOT EXISTS bus.message_type (",
  "    id_message_type INTEGER GENERATED ALWAYS AS IDENTITY PRIMARY KEY,",
  "    name            TEXT NOT NULL UNIQUE,",
  "    type_name       TEXT NOT NULL",
  ");",
  "",
  "CREATE TABLE IF NOT EXISTS bus.publisher (",
  "    id_publisher    UUID PRIMARY KEY,",
  "    name            TEXT NOT NULL,",
  "    id_scenario     UUID NOT NULL REFERENCES bus.scenario (id_scenario),",
  "    id_message_type INTEGER NOT NULL REFERENCES bus.message_type (id_message_type)",
  ");",
  "",
  "CREATE TABLE IF NOT EXISTS bus.subscriber (",
  "    id_subscriber         UUID PRIMARY KEY,",
  "    name                  TEXT NOT NULL,",
  "    id_scenario           UUID NOT NULL REFERENCES bus.scenario (id_scenario),",
  "    id_message_type       INTEGER NOT NULL REFERENCES bus.message_type (id_message_type),",
  "    is_fifo               BOOLEAN NOT NULL,",
  "    processing_timeout_ms BIGINT NOT NULL CHECK (processing_timeout_ms >= 0),",
  "    max_retry             INTEGER NULL CHECK (max_retry >= 0)",
  ");",
  "",
  "CREATE TABLE IF NOT EXISTS bus.job (",
  "    id_job                INTEGER GENERATED ALWAYS AS IDENTITY PRIMARY KEY,",
  "    name                  TEXT NOT NULL,",
  "    id_scenario           UUID NOT NULL REFERENCES bus.scenario (id_scenario),",
  "    id_message_type       INTEGER NULL REFERENCES bus.message_type (id_message_type),",
  "    is_fifo               BOOLEAN NOT NULL,",
  "    processing_timeout_ms BIGINT NOT NULL CHECK (processing_timeout_ms >= 0),",
  "    max_retry             INTEGER NULL CHECK (max_retry >= 0),",
  "    UNIQUE (id_scenario, name)",
  ");",
  "",
  "CREATE TABLE IF NOT EXISTS bus.publisher_instance (",
  "    id_publisher_instance       UUID PRIMARY KEY,",
  "    id_publisher                UUID NOT NULL REFERENCES bus.publisher (id_publisher),",
  "    id_service_bus_host_runtime UUID NOT NULL REFERENCES bus.service_bus_host_runtime (id_service_bus_host_runtime),",
  "    created_utc                 TIMESTAMPTZ NOT NULL,",
  "    last_activity_utc           TIMESTAMPTZ NOT NULL,",
  "    state                       SMALLINT NOT NULL CHECK (state BETWEEN 1 AND 5)",
  ");",
  "",
  "CREATE TABLE IF NOT EXISTS bus.subscriber_instance (",
  "    id_subscriber_instance      UUID PRIMARY KEY,",
  "    id_subscriber               UUID NOT NULL REFERENCES bus.subscriber (id_subscriber),",
  "    id_service_bus_host_runtime UUID NOT NULL REFERENCES bus.service_bus_host_runtime (id_service_bus_host_runtime),",
  "    created_utc                 TIMESTAMPTZ NOT NULL,",
  "    last_activity_utc           TIMESTAMPTZ NOT NULL,",
  "    state                       SMALLINT NOT NULL CHECK (state BETWEEN 1 AND 5)",
  ");",
  "",
  "CREATE TABLE IF NOT EXISTS bus.job_instance (",
  "    id_job_instance             UUID PRIMARY KEY,",
  "    id_job                      INTEGER NOT NULL REFERENCES bus.job (id_job),",
  "    id_service_bus_host_runtime UUID NOT NULL REFERENCES bus.service_bus_host_runtime (id_service_bus_host_runtime),",
  "    created_utc                 TIMESTAMPTZ NOT NULL,",
  "    last_activity_utc           TIMESTAMPTZ NOT NULL,",
  "    state                       SMALLINT NOT NULL CHECK (state BETWEEN 1 AND 5)",
  ");",
  "",
  "CREATE TABLE IF NOT EXISTS bus.message (",
  "    id_message            UUID PRIMARY KEY,",
  "    id_message_type       INTEGER NOT NULL REFERENCES bus.message_type (id_message_type),",
  "    id_publisher_instance UUID NOT NULL REFERENCES bus.publisher_instance (id_publisher_instance),",
  "    id_previous_message   UUID NULL REFERENCES bus.message (id_message),",
  "    created_utc           TIMESTAMPTZ NOT NULL,",
  "    valid_to_utc          TIMESTAMPTZ NULL,",
  "    is_recovery           BOOLEAN NOT NULL DEFAULT FALSE,",
  "    data                  BYTEA NOT NULL",
  ");",
  "",
  "CREATE INDEX IF NOT EXISTS ix_message_created ON bus.message (created_utc, id_message);",
  "",
  "CREATE TABLE IF NOT EXISTS bus.subscriber_message (",
  "    id_subscriber_message  UUID PRIMARY KEY,",
  "    id_message             UUID NOT NULL REFERENCES bus.message (id_message),",
  "    id_subscriber          UUID NOT NULL REFERENCES bus.subscriber (id_subscriber),",
  "    id_subscriber_instance UUID NULL REFERENCES bus.subscriber_instance (id_subscriber_instance),",
  "    last_access_utc        TIMESTAMPTZ NULL,",
  "    state                  SMALLINT NOT NULL CHECK (state BETWEEN 1 AND 6),",
  "    snapshot               BYTEA NULL,",
  "    retry_count            INTEGER NOT NULL DEFAULT 0 CHECK (retry_count >= 0),",
  "    delayed_to_utc         TIMESTAMPTZ NULL,",
  "    concurrency_token      UUID NOT NULL,",
  "    UNIQUE (id_message, id_subscriber)",
  ");",
  "",
  "-- Polls only ever look at live tickets.",
  "CREATE INDEX IF NOT EXISTS ix_subscriber_message_live",
  "    ON bus.subscriber_message (id_subscriber, state)",
  "    WHERE state NOT IN (3, 6);",
  "",
  "CREATE TABLE IF NOT EXISTS bus.message_temp_queue (",
  "    id_message_temp_queue UUID PRIMARY KEY,",
  "    id_message            UUID NOT NULL REFERENCES bus.message (id_message),",
  "    id_job                INTEGER NOT NULL REFERENCES bus.job (id_job),",
  "    id_job_instance       UUID NULL REFERENCES bus.job_instance (id_job_instance),",
  "    last_access_utc       TIMESTAMPTZ NULL,",
  "    state                 SMALLINT NOT NULL CHECK (state BETWEEN 1 AND 6),",
  "    snapshot              BYTEA NULL,",
  "    retry_count           INTEGER NOT NULL DEFAULT 0 CHECK (retry_count >= 0),",
  "    delayed_to_utc        TIMESTAMPTZ NULL,",
  "    concurrency_token     UUID NOT NULL,",
  "    UNIQUE (id_message, id_job)",
  ");",
  "",
  "CREATE INDEX IF NOT EXISTS ix_message_temp_queue_live",
  "    ON bus.message_temp_queue (id_job, state)",
  "    WHERE state NOT IN (3, 6);",
  "",
  "CREATE TABLE IF NOT EXISTS bus.snapshot (",
  "    identifier      TEXT PRIMARY KEY,",
  "    id_job_instance UUID NOT NULL REFERENCES bus.job_instance (id_job_instance),",
  "    data            BYTEA NOT NULL,",
  "    created_utc     TIMESTAMPTZ NOT NULL,",
  "    updated_utc     TIMESTAMPTZ NOT NULL",
  ");",
  "",
  "CREATE TABLE IF NOT EXISTS bus.service_bus_log (",
  "    id_log                      UUID PRIMARY KEY,",
  "    id_service_bus_host_runtime UUID NOT NULL REFERENCES bus.service_bus_host_runtime (id_service_bus_host_runtime),",
  "    level                       SMALLINT NOT NULL,",
  "    text                        TEXT NOT NULL,",
  "    id_message                  UUID NULL REFERENCES bus.message (id_message),",
  "    status                      SMALLINT NULL,",
  "    correlation_id              TEXT NULL,",
  "    created_utc                 TIMESTAMPTZ NOT NULL",
  ");",
  "",
  "CREATE TABLE IF NOT EXISTS bus.publisher_instance_log (",
  "    id_log                UUID PRIMARY KEY,",
  "    id_publisher_instance UUID NOT NULL REFERENCES bus.publisher_instance (id_publisher_instance),",
  "    level                 SMALLINT NOT NULL,",
  "    text                  TEXT NOT NULL,",
  "    id_message            UUID NULL REFERENCES bus.message (id_message),",
  "    status                SMALLINT NULL,",
  "    correlation_id        TEXT NULL,",
  "    created_utc           TIMESTAMPTZ NOT NULL",
  ");",
  "",
  "CREATE TABLE IF NOT EXISTS bus.subscriber_instance_log (",
  "    id_log                 UUID PRIMARY KEY,",
  "    id_subscriber_instance UUID NOT NULL REFERENCES bus.subscriber_instance (id_subscriber_instance),",
  "    level                  SMALLINT NOT NULL,",
  "    text                   TEXT NOT NULL,",
  "    id_message             UUID NULL REFERENCES bus.message (id_message),",
  "    status                 SMALLINT NULL,",
  "    correlation_id         TEXT NULL,",
  "    created_utc            TIMESTAMPTZ NOT NULL",
  ");",
  "",
  "CREATE TABLE IF NOT EXISTS bus.job_instance_log (",
  "    id_log          UUID PRIMARY KEY,",
  "    id_job_instance UUID NOT NULL REFERENCES bus.job_instance (id_job_instance),",
  "    level           SMALLINT NOT NULL,",
  "    text            TEXT NOT NULL,",
  "    id_message      UUID NULL REFERENCES bus.message (id_message),",
  "    status          SMALLINT NULL,",
  "    correlation_id  TEXT NULL,",
  "    created_utc     TIMESTAMPTZ NOT NULL",
  ");"]

/-- The text of the statements. -/
def script : String := String.join (lines.map fun line => line ++ "\n")

end MessageBus.Schema
