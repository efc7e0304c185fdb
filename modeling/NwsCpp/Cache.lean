import NwsCpp.Containers

/-! The LRU cache with time-to-live expiration, and its runs. -/

namespace NwsCpp

open Containers

namespace LruCache

/-- `ttl` counts seconds; clock readings count nanoseconds. -/
structure Config where
  maxEntries : Nat := 1000
  ttl : Int := 3600

structure CacheEntry (V : Type*) where
  value : V
  insertedAt : Int
  listIt : Nat

structure State (K V : Type*) [BEq K] [Hashable K] where
  order : NodeList K
  map : KeyMap K (CacheEntry V)

/-- The allocation that fails in a `put` of a new key. -/
inductive Failure where
  | listInsertion
  | mapInsertion
  deriving DecidableEq

inductive Op (K V : Type*) where
  | get (key : K)
  | put (key : K) (value : V) (failure : Option Failure)
  | invalidate (key : K)
  | clear

inductive Outcome (V : Type*) where
  | got (value : Option V)
  | completed
  | threw
  deriving DecidableEq

variable {K V : Type*} [BEq K] [Hashable K]

def State.init : State K V := ⟨NodeList.empty, KeyMap.empty⟩

def Config.ttlNanos (config : Config) : Int := config.ttl * 1000000000

def Config.disabled (config : Config) : Prop := config.maxEntries = 0 ∨ config.ttl ≤ 0

instance (config : Config) : Decidable config.disabled := by unfold Config.disabled; infer_instance

def get (config : Config) (key : K) (now : Int) (st : State K V) : Option V × State K V :=
  match st.map.find key with
  | none => (none, st)
  | some entry =>
    if config.ttlNanos < now - entry.insertedAt then
      (none, { order := st.order.eraseAt entry.listIt, map := st.map.erase key })
    else (some entry.value, { st with order := st.order.splice entry.listIt })

/-- The loop that drops entries from the back; the fuel is the length of the list. -/
def evict (maxEntries : Nat) : Nat → State K V → State K V
  | 0, st => st
  | fuel + 1, st =>
    if maxEntries < st.map.size then
      match st.order.back with
      | some key => evict maxEntries fuel { order := st.order.popBack, map := st.map.erase key }
      | none => st
    else st

def put (config : Config) (key : K) (value : V) (failure : Option Failure) (now : Int)
    (st : State K V) : Outcome V × State K V :=
  if config.disabled then (.completed, st)
  else
    match st.map.find key with
    | some entry =>
      (.completed,
        { order := st.order.splice entry.listIt
          map := st.map.assign key { entry with value, insertedAt := now } })
    | none =>
      let order := st.order.pushFront key
      match failure with
      | some .listInsertion => (.threw, st)
      | some .mapInsertion => (.threw, { st with order := order.popFront })
      | none =>
        let map := st.map.emplace key { value, insertedAt := now, listIt := order.begin }
        (.completed, evict config.maxEntries order.nodes.length { order, map })

def invalidate (key : K) (st : State K V) : State K V :=
  match st.map.find key with
  | some entry => { order := st.order.eraseAt entry.listIt, map := st.map.erase key }
  | none => st

def clear (st : State K V) : State K V :=
  { order := st.order.restrict [] (List.nil_sublist _), map := KeyMap.empty }

def step (config : Config) (now : Int) (op : Op K V) (st : State K V) : Outcome V × State K V :=
  match op with
  | .get key => ((get config key now st).map .got id)
  | .put key value failure => put config key value failure now st
  | .invalidate key => (.completed, invalidate key st)
  | .clear => (.completed, clear st)

structure Event (K V : Type*) where
  time : Int
  op : Op K V
  outcome : Outcome V

/-- A cache with its calls so far, the latest first. -/
structure Run (K V : Type*) [BEq K] [Hashable K] where
  history : List (Event K V) := []
  state : State K V := State.init

def Run.call (config : Config) (run : Run K V) (time : Int) (op : Op K V) : Run K V :=
  let result := step config time op run.state
  { history := ⟨time, op, result.1⟩ :: run.history, state := result.2 }

def exec (config : Config) (ops : List (Int × Op K V)) : Run K V :=
  ops.foldl (fun run timed => run.call config timed.1 timed.2) {}

/-- The value and the time of the latest completed `put` of the key that no
`invalidate` of it and no `clear` follows. -/
def lastPut (key : K) : List (Event K V) → Option (V × Int)
  | [] => none
  | ⟨time, .put k value _, .completed⟩ :: rest =>
    if k == key then some (value, time) else lastPut key rest
  | ⟨_, .invalidate k, _⟩ :: rest => if k == key then none else lastPut key rest
  | ⟨_, .clear, _⟩ :: _ => none
  | _ :: rest => lastPut key rest

end LruCache

end NwsCpp
