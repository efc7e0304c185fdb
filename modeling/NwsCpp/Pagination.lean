import NwsCpp.QueryStrings
import NwsCpp.Error

/-! The paginated iterator over a stateful fetch function. -/

namespace NwsCpp

open Bytes

/-- A page of results; a cursor that is present and not empty continues it. -/
structure PaginatedResponse (T : Type*) where
  data : List T
  nextCursor : Option Text
  deriving DecidableEq

/-- The cursor to continue with, when `has_more()`. -/
def PaginatedResponse.more {T : Type*} (page : PaginatedResponse T) : Option Text :=
  page.nextCursor.filter (!·.isEmpty)

structure PaginatedIterator where
  seenCursors : List Text
  params : PaginationParams
  exhausted : Bool := false
  deriving DecidableEq

namespace PaginatedIterator

variable {T σ : Type*} (fetch : PaginationParams → σ → Result (PaginatedResponse T) × σ)

/-- The cursor a request names, `none` for a request without one. -/
def cursorKey (params : PaginationParams) : Option Text := params.cursor.filter (!·.isEmpty)

def start (initial : PaginationParams) : PaginatedIterator :=
  { seenCursors := (cursorKey initial).toList, params := initial }

def next (it : PaginatedIterator) (s : σ) : Result (List T) × PaginatedIterator × σ :=
  if it.exhausted then (.ok [], it, s)
  else
    match fetch it.params s with
    | (.error error, s) => (.error error, it, s)
    | (.ok page, s) =>
      match page.more with
      | some cursor =>
        if cursor ∈ it.seenCursors then
          (.error (Error.parse (ascii "Pagination cursor repeated")), { it with exhausted := true },
            s)
        else
          (.ok page.data,
            { it with
              seenCursors := cursor :: it.seenCursors
              params := { it.params with cursor := some cursor } }, s)
      | none => (.ok page.data, { it with exhausted := true }, s)

/-- The loop of `collect_all`; without a result when the fuel ends before it does. -/
def collectFrom : Nat → List T → PaginatedIterator → σ →
    Option (Result (List T)) × PaginatedIterator × σ
  | 0, _, it, s => (none, it, s)
  | fuel + 1, all, it, s =>
    if it.exhausted then (some (.ok all), it, s)
    else
      match it.next fetch s with
      | (.error error, it, s) => (some (.error error), it, s)
      | (.ok page, it, s) => collectFrom fuel (all ++ page) it s

def collectAll (fuel : Nat) (it : PaginatedIterator) (s : σ) :
    Option (Result (List T)) × PaginatedIterator × σ :=
  collectFrom fetch fuel [] it s

/-- The calls on an iterator; `collectAll` runs for at most `rounds` turns of its loop. -/
inductive Call where
  | next
  | collectAll (rounds : Nat)

structure Fetched (T : Type*) where
  params : PaginationParams
  outcome : Result (PaginatedResponse T)

/-- The source behind an iterator, with the calls on it, the latest first. -/
structure Source (σ T : Type*) where
  world : σ
  log : List (Fetched T) := []

def logged (params : PaginationParams) (source : Source σ T) :
    Result (PaginatedResponse T) × Source σ T :=
  let reply := fetch params source.world
  (reply.1, { world := reply.2, log := ⟨params, reply.1⟩ :: source.log })

structure Session (σ T : Type*) where
  iter : PaginatedIterator
  source : Source σ T

def Session.init (initial : PaginationParams) (world : σ) : Session σ T :=
  ⟨PaginatedIterator.start initial, { world }⟩

def Session.call (session : Session σ T) : Call → Session σ T
  | .next =>
    let result := session.iter.next (logged fetch) session.source
    ⟨result.2.1, result.2.2⟩
  | .collectAll rounds =>
    let result := session.iter.collectAll (logged fetch) rounds session.source
    ⟨result.2.1, result.2.2⟩

def run (session : Session σ T) (callsOn : List Call) : Session σ T :=
  callsOn.foldl (fun session => session.call fetch) session

end PaginatedIterator

end NwsCpp
