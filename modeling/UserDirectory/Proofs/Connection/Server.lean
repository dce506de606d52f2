import UserDirectory.Connection.Engine
import UserDirectory.Proofs.Connection.Url

/-!
# URLs of servers

The URL of a PostgreSQL server is turned to the asynchronous driver and written out for the engine.
Nothing is lost on the way but its options: what is read from the text that the engine gets is the
normal form itself, with the user name, the password, the host, the port and the database of the
first reading.
-/
namespace UserDirectory.Connection

namespace Url

variable {u : Url}

theorem normalize_eq (server : u.backend = "postgresql") :
    u.normalize = { u with driverName := "postgresql+asyncpg", query := [] } := if_pos server

theorem backend_normalize : u.normalize.backend = u.backend := by
  by_cases server : u.backend = "postgresql"
  · have dialect : String.ofList ("postgresql+asyncpg".toList.takeWhile (· != '+')) =
      "postgresql" := by decide
    rw [normalize_eq server, server]
    exact dialect
  · rw [normalize_eq_self server]

@[simp] theorem normalize_normalize : u.normalize.normalize = u.normalize := by
  by_cases server : u.backend = "postgresql"
  · rw [normalize_eq (backend_normalize.trans server), normalize_eq server]
  · rw [normalize_eq_self server, normalize_eq_self server]

theorem WellFormed.normalize (formed : u.WellFormed) : u.normalize.WellFormed := by
  by_cases server : u.backend = "postgresql"
  · have inside : "postgresql+asyncpg".toList.all isDriverChar = true := by decide +kernel
    have nonempty : "postgresql+asyncpg" ≠ "" := by decide
    rw [normalize_eq server]
    exact ⟨nonempty, List.all_eq_true.1 inside, formed.named, formed.host, formed.port⟩
  · rwa [normalize_eq_self server]

/-- The normal form of a server is read from its own text. -/
theorem parse_render_normalize (formed : u.WellFormed) (server : u.backend = "postgresql")
    (plain : u.PlainHost) :
    parse (u.normalize.render false) = .ok u.normalize := by
  have samePlain : u.normalize.PlainHost := by
    rw [normalize_eq server]
    exact plain
  have bare : u.normalize.query = [] := by rw [normalize_eq server]
  exact parse_render formed.normalize samePlain bare

end Url

namespace Engine

theorem callFor_server {u : Url} (server : u.backend = "postgresql") (echo tls : Bool) :
    callFor u.normalize echo tls = ⟨u.normalize.render false, echo, .perUse, some { tls }⟩ := by
  rw [callFor, Url.backend_normalize, server]
  rfl

/-- The driver that waits for answers is loaded for the normal form of a server. -/
theorem load_normalize {u : Url} (server : u.backend = "postgresql") :
    load u.normalize = .ok "asyncpg" := by
  have file : checkFile u.normalize = .ok () := by
    rw [checkFile, Url.backend_normalize, server]
    rfl
  have known : Driver.ofName "postgresql+asyncpg" = .ok (.async "asyncpg") := by decide +kernel
  have driver : Driver.ofName u.normalize.driverName = .ok (.async "asyncpg") := by
    rw [Url.normalize_eq server]
    exact known
  have plugins : checkPlugins u.normalize = .ok () := by
    rw [Url.normalize_eq server]
    rfl
  rw [load, plugins, driver]
  simp only [Except.mapError, bind, Except.bind, file, pure, Except.pure]

/-- An engine is opened for every server with a plain host. -/
theorem build_server {raw : String} {u : Url} (read : Url.parse raw = .ok u)
    (server : u.backend = "postgresql") (plain : u.PlainHost) (echo tls : Bool) :
    build raw echo tls = .ok ⟨callFor u.normalize echo tls, "postgresql", "asyncpg"⟩ := by
  -- The engine reads its URL once more from the text, and that is the normal form again.
  have again := Url.parse_render_normalize (Url.wellFormed_of_parse read) server plain
  have text : (callFor u.normalize echo tls).url = u.normalize.render false := by
    rw [callFor_server server]
  have served : (callFor u.normalize echo tls).server.isSome = true := by
    rw [callFor_server server]; rfl
  have backend : u.normalize.backend = "postgresql" := Url.backend_normalize.trans server
  simp only [build, read, Except.mapError, bind, Except.bind, served, if_true, text, again,
    load_normalize server, backend, pure, Except.pure]

/-- A URL of another system stays as it is read. A URL of a PostgreSQL server keeps its five parts
and loses its options; an engine is opened for it, and the text that the engine gets is read as the
same URL, which is in normal form. -/
theorem server_urls_survive_rendering {raw : String} {u : Url} (read : Url.parse raw = .ok u) :
    (u.backend ≠ "postgresql" → u.normalize = u) ∧
    (u.backend = "postgresql" →
      u.normalize = ⟨"postgresql+asyncpg", u.username, u.password, u.host, u.port, u.database, []⟩ ∧
      (u.PlainHost → ∀ echo tls, ∃ engine, build raw echo tls = .ok engine ∧
        engine.call.url = u.normalize.render false ∧ engine.dialect = "postgresql" ∧
        engine.driver = "asyncpg" ∧
        Url.parse engine.call.url = .ok u.normalize ∧
        (Url.parse engine.call.url).map Url.normalize = .ok u.normalize)) := by
  refine ⟨Url.normalize_eq_self, fun server => ⟨Url.normalize_eq server, fun plain echo tls => ?_⟩⟩
  have again := Url.parse_render_normalize (Url.wellFormed_of_parse read) server plain
  refine ⟨_, build_server read server plain echo tls, ?_, rfl, rfl, ?_, ?_⟩
    <;> rw [callFor_server server]
  · exact again
  · rw [again]
    exact congrArg Except.ok Url.normalize_normalize

/-- Marks in the credentials and in the database, a host with colons, a port in other digits and
options. -/
theorem server_urls_survive_rendering_marks :
    let raw :=
      "postgresql+psycopg2://ad%3Amin:p/w:%25x@[fe80::1%25eth0]:\uff15_432/a%20b/c%3fd?sslmode=require&x=1"
    let u : Url :=
      ⟨"postgresql+psycopg2", some "ad:min", some "p/w:%x", some "fe80::1%25eth0", some 5432,
      some "a b/c?d", [("sslmode", ["require"]), ("x", ["1"])]⟩
    let text := "postgresql+asyncpg://ad%3Amin:p%2Fw%3A%25x@[fe80::1%25eth0]:5432/a b/c%3Fd"
    Url.parse raw = .ok u ∧ u.normalize.query = [] ∧ u.normalize.password = some "p/w:%x" ∧
    (∃ engine, build raw false true = .ok engine ∧ engine.call.url = text) ∧
      Url.parse text = .ok u.normalize ∧
    (Url.parse text).map Url.normalize = .ok u.normalize := by
  intro raw u text
  have read : Url.parse raw = .ok u := by decide +kernel
  obtain ⟨normal, opened⟩ := (server_urls_survive_rendering read).2 (by decide)
  obtain ⟨engine, built, written, -, -, again, same⟩ := opened (by decide +kernel) false true
  have rendered : u.normalize.render false = text := by decide +kernel
  rw [written, rendered] at again same
  exact ⟨read, by rw [normal], by rw [normal], ⟨engine, built, written.trans rendered⟩, again, same⟩

end Engine

end UserDirectory.Connection
