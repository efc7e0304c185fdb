import NwsCpp.Attempts
import NwsCpp.PointCoherence

/-! The requests of `get_point`: when it makes one, and that the events of its calls are
those that the environment records. -/

namespace NwsCpp

open Bytes Request

namespace Points

variable {σ D P : Type*} [Double D] {env : Env σ} {readers : Readers P} {config : Config}

/-- The point that the cache of a client has for a lookup. -/
def Client.cached (config : Config) (client : Client σ D P) (input : Input D) : Option P :=
  client.cache.bind fun cache => (LruCache.get config.cache input.key input.lookedUp cache.state).1

/-- The requests of one call and its result: none for coordinates out of bounds or for a
point in the cache, else one. -/
inductive Asks (readers : Readers P) (config : Config) (client : Client σ D P)
    (input : Input D) : List Exchange → Result P → Prop
  | invalid (out : input.invalid = true) :
      Asks readers config client input [] (.error invalidCoordinates)
  | cached {point : P} (valid : input.invalid = false)
      (hit : client.cached config input = some point) :
      Asks readers config client input [] (.ok point)
  | asked {reply : Result HttpResponse} (valid : input.invalid = false)
      (miss : client.cached config input = none) :
      Asks readers config client input [(input.path, reply)]
        ((bodyOrError readers reply).bind readers.point)

theorem fetchPoint_asks (env : Env σ) (readers : Readers P) (config : Config) (input : Input D)
    (client : Client σ D P) :
    ∃ reply client', fetchPoint env readers config input client =
        some ((bodyOrError readers reply).bind readers.point, client') ∧
      Exchanged env config.retry client.request [(input.path, reply)] client'.request := by
  obtain ⟨reply, request, hrun, -⟩ := doGet_last env config.retry input.path client.request
  have hsingle := Exchanged.single hrun
  refine ⟨reply, ?_⟩
  simp only [fetchPoint, hrun]
  cases bodyOrError readers reply with
  | error error => exact ⟨{ client with request }, rfl, hsingle⟩
  | ok body =>
    simp only [Except.bind]
    cases readers.point body with
    | error error => exact ⟨{ client with request }, rfl, hsingle⟩
    | ok response => exact ⟨⟨request, _⟩, rfl, hsingle⟩

theorem getPoint_asks (env : Env σ) (readers : Readers P) (config : Config) (input : Input D)
    (client : Client σ D P) :
    ∃ result client' xs, getPoint env readers config input client = some (result, client') ∧
      Asks readers config client input xs result ∧
      Exchanged env config.retry client.request xs client'.request := by
  rw [getPoint]
  cases hinvalid : input.invalid with
  | true => exact ⟨_, client, [], if_pos rfl, .invalid hinvalid, .nil _⟩
  | false =>
    rw [if_neg Bool.false_ne_true]
    cases hcache : client.cache with
    | none =>
      have hmiss : client.cached config input = none := by rw [Client.cached, hcache]; rfl
      obtain ⟨reply, client', hrun, hx⟩ := fetchPoint_asks env readers config input client
      exact ⟨_, client', _, hrun, .asked hinvalid hmiss, hx⟩
    | some cache =>
      have hcached : client.cached config input =
          (LruCache.get config.cache input.key input.lookedUp cache.state).1 := by
        rw [Client.cached, hcache]
        rfl
      simp only
      cases hhit : (LruCache.get config.cache input.key input.lookedUp cache.state).1 with
      | some response => exact ⟨_, _, [], rfl, .cached hinvalid (hcached.trans hhit), .nil _⟩
      | none =>
        obtain ⟨reply, client', hrun, hx⟩ := fetchPoint_asks env readers config input
          { client with cache := some (cache.call config.cache input.lookedUp (.get input.key)) }
        exact ⟨_, client', _, hrun, .asked hinvalid (hcached.trans hhit), hx⟩

variable {record : σ → List Event} {before : List Event}

/-- A call adds to the records the events that the environment has recorded of it. -/
theorem call_traced (hrecords : Request.Records env record) {session session' : Session σ D P}
    {input : Input D} (hcall : session.call env readers config input = some session')
    (h : Traced record before session.client.request) :
    Traced record before session'.client.request ∧ ∃ entry,
      session'.records = entry :: session.records ∧ entry.input = input ∧
      record session'.client.request.world =
        record session.client.request.world ++ entry.events := by
  obtain ⟨result, client', xs, hrun, -, hx⟩ :=
    getPoint_asks env readers config input session.client
  rw [Session.call, hrun, Option.map_some, Option.some.injEq] at hcall
  subst hcall
  have htraced := hx.traced hrecords h
  refine ⟨htraced, _, rfl, rfl, ?_⟩
  obtain ⟨events, htrace⟩ := hx.trace
  rw [htraced, h, htrace, List.drop_left, List.append_assoc]

/-- In a run of calls the events, call after call, are the calls that the environment has
recorded. -/
theorem run_traced (hrecords : Request.Records env record) (readers : Readers P)
    (config : Config) (world : σ) (inputs : List (Input D)) {session : Session σ D P}
    (hrun : run env readers config { client := Client.init config world } inputs = some session) :
    record session.client.request.world =
      record world ++ (session.records.reverse.map Record.events).flatten := by
  have hall : ∀ inputs (start : Session σ D P),
      Traced record (record world) start.client.request →
      record start.client.request.world =
        record world ++ (start.records.reverse.map Record.events).flatten →
      run env readers config start inputs = some session →
      record session.client.request.world =
        record world ++ (session.records.reverse.map Record.events).flatten := by
    intro inputs
    induction inputs with
    | nil =>
      intro start _ hworld hrun
      exact Option.some.inj hrun ▸ hworld
    | cons input inputs ih =>
      intro start htraced hworld hrun
      rw [run, List.foldlM_cons] at hrun
      obtain ⟨mid, hcall, hrest⟩ := Option.bind_eq_some_iff.mp hrun
      obtain ⟨hmid, entry, hentries, -, hrecord⟩ := call_traced hrecords hcall htraced
      refine ih mid hmid ?_ hrest
      rw [hrecord, hworld, hentries]
      simp
  exact hall inputs _ (by simp [Traced, Client.init]) (by simp [Client.init]) hrun

end Points

end NwsCpp
