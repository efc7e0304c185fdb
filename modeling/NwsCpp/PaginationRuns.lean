import NwsCpp.Pagination

/-! Every run of a paginated iterator asks for each page at most once more after
it has it, and ends when the source has finitely many cursors. -/

namespace NwsCpp

open Bytes

namespace PaginatedIterator

variable {T σ : Type*} {fetch : PaginationParams → σ → Result (PaginatedResponse T) × σ}
  {it : PaginatedIterator} {s : σ} {initial : PaginationParams}

/-- Everything one call of `next` can do. -/
inductive NextCase (fetch : PaginationParams → σ → Result (PaginatedResponse T) × σ)
    (it : PaginatedIterator) (s : σ) : Prop where
  | exhausted (h : it.exhausted = true) (eq : it.next fetch s = (.ok [], it, s))
  | failed (h : it.exhausted = false) (error : Error)
    (reply : (fetch it.params s).1 = .error error)
    (eq : it.next fetch s = (.error error, it, (fetch it.params s).2))
  | last (h : it.exhausted = false) (page : PaginatedResponse T)
    (reply : (fetch it.params s).1 = .ok page) (more : page.more = none)
    (eq : it.next fetch s = (.ok page.data, { it with exhausted := true }, (fetch it.params s).2))
  | repeated (h : it.exhausted = false) (page : PaginatedResponse T) (cursor : Text)
    (reply : (fetch it.params s).1 = .ok page) (more : page.more = some cursor)
    (seen : cursor ∈ it.seenCursors)
    (eq : it.next fetch s = (.error (Error.parse (ascii "Pagination cursor repeated")),
      { it with exhausted := true }, (fetch it.params s).2))
  | advanced (h : it.exhausted = false) (page : PaginatedResponse T) (cursor : Text)
    (reply : (fetch it.params s).1 = .ok page) (more : page.more = some cursor)
    (fresh : cursor ∉ it.seenCursors)
    (eq : it.next fetch s = (.ok page.data,
      { it with
        seenCursors := cursor :: it.seenCursors
        params := { it.params with cursor := some cursor } }, (fetch it.params s).2))

theorem next_case (fetch : PaginationParams → σ → Result (PaginatedResponse T) × σ)
    (it : PaginatedIterator) (s : σ) : NextCase fetch it s := by
  cases hex : it.exhausted with
  | true => exact .exhausted hex (by rw [next, hex, if_pos rfl])
  | false =>
    generalize hreply : fetch it.params s = reply
    obtain ⟨outcome, s'⟩ := reply
    have h1 : (fetch it.params s).1 = outcome := by rw [hreply]
    have h2 : (fetch it.params s).2 = s' := by rw [hreply]
    cases outcome with
    | error error => exact .failed hex error h1 (by simp [next, hex, hreply])
    | ok page =>
      cases hmore : page.more with
      | none => exact .last hex page h1 hmore (by simp [next, hex, hreply, hmore])
      | some cursor =>
        by_cases hseen : cursor ∈ it.seenCursors
        · exact .repeated hex page cursor h1 hmore hseen (by simp [next, hex, hreply, hmore, hseen])
        · exact .advanced hex page cursor h1 hmore hseen (by simp [next, hex, hreply, hmore, hseen])

theorem more_ne_nil {page : PaginatedResponse T} {cursor : Text} (h : page.more = some cursor) :
    cursor ≠ [] := by
  simpa using (Option.filter_eq_some_iff.mp h).2

theorem cursorKey_some {params : PaginationParams} {cursor : Text} (h : cursor ≠ []) :
    cursorKey { params with cursor := some cursor } = some cursor := by
  cases cursor with
  | nil => exact absurd rfl h
  | cons c cursor => rfl

def Fetched.succeeded (f : Fetched T) : Bool :=
  match f.outcome with
  | .ok _ => true
  | .error _ => false

def Fetched.offered (f : Fetched T) : Option Text :=
  match f.outcome with
  | .ok page => page.more
  | .error _ => none

/-- No request is made again once it has succeeded. -/
def Once (log : List (Fetched T)) : Prop :=
  log.Pairwise fun newer older =>
    older.succeeded = true → cursorKey newer.params ≠ cursorKey older.params

/-- What ties the iterator to the fetches it has made. -/
structure Inv (initial : PaginationParams) (it : PaginatedIterator) (log : List (Fetched T)) :
    Prop where
  limit : it.params.limit = initial.limit
  limits : ∀ f ∈ log, f.params.limit = initial.limit
  once : Once log
  current : it.exhausted = false → ∀ f ∈ log, f.succeeded = true →
    cursorKey f.params ≠ cursorKey it.params
  seen : ∀ f ∈ log, ∀ c, cursorKey f.params = some c → c ∈ it.seenCursors
  seenCurrent : ∀ c, cursorKey it.params = some c → c ∈ it.seenCursors
  origin : ∀ f ∈ log, cursorKey f.params = cursorKey initial ∨
    ∃ g ∈ log, cursorKey f.params = g.offered ∧ g.offered.isSome
  originCurrent : cursorKey it.params = cursorKey initial ∨
    ∃ g ∈ log, cursorKey it.params = g.offered ∧ g.offered.isSome

namespace Inv

variable {log : List (Fetched T)}

theorem start (initial : PaginationParams) :
    Inv initial (PaginatedIterator.start initial) ([] : List (Fetched T)) where
  limit := rfl
  limits := by simp
  once := List.Pairwise.nil
  current := by simp
  seen := by simp
  seenCurrent c hc := by simpa [PaginatedIterator.start] using hc
  origin := by simp
  originCurrent := Or.inl rfl

/-- One more fetch with the current parameters, after which the iterator is either
where it was or exhausted. -/
theorem fetched (h : Inv initial it log) (hex : it.exhausted = false)
    (outcome : Result (PaginatedResponse T)) {exhausted : Bool}
    (hstop : exhausted = true ∨ (Fetched.mk it.params outcome).succeeded = false) :
    Inv initial { it with exhausted } (⟨it.params, outcome⟩ :: log) where
  limit := h.limit
  limits := List.forall_mem_cons.mpr ⟨h.limit, h.limits⟩
  once := List.pairwise_cons.mpr ⟨fun f hf hok => (h.current hex f hf hok).symm, h.once⟩
  current hrun := by
    have hfail := hstop.resolve_left (by simpa using hrun)
    exact List.forall_mem_cons.mpr ⟨fun hok => by simp [hfail] at hok, h.current hex⟩
  seen := List.forall_mem_cons.mpr ⟨h.seenCurrent, h.seen⟩
  seenCurrent := h.seenCurrent
  origin := by
    have hmono : ∀ {key : Option Text}, (key = cursorKey initial ∨
        ∃ g ∈ log, key = g.offered ∧ g.offered.isSome) → key = cursorKey initial ∨
        ∃ g ∈ Fetched.mk it.params outcome :: log, key = g.offered ∧ g.offered.isSome :=
      fun hk => hk.imp_right fun ⟨g, hg, hkey⟩ => ⟨g, List.mem_cons_of_mem _ hg, hkey⟩
    exact List.forall_mem_cons.mpr ⟨hmono h.originCurrent, fun f hf => hmono (h.origin f hf)⟩
  originCurrent := h.originCurrent.imp_right fun ⟨g, hg, hkey⟩ =>
    ⟨g, List.mem_cons_of_mem _ hg, hkey⟩

theorem advanced (h : Inv initial it log) (hex : it.exhausted = false)
    {page : PaginatedResponse T} {cursor : Text} (hmore : page.more = some cursor)
    (hfresh : cursor ∉ it.seenCursors) :
    Inv initial
      { it with
        seenCursors := cursor :: it.seenCursors
        params := { it.params with cursor := some cursor } }
      (⟨it.params, .ok page⟩ :: log) := by
  have hstop := h.fetched hex (.ok page) (Or.inl rfl)
  have hkey : cursorKey { it.params with cursor := some cursor } = some cursor :=
    cursorKey_some (more_ne_nil hmore)
  exact {
    limit := h.limit
    limits := hstop.limits
    once := hstop.once
    current := fun _ f hf _ heq => hfresh (hstop.seen f hf cursor (heq.trans hkey))
    seen := fun f hf c hc => List.mem_cons_of_mem _ (hstop.seen f hf c hc)
    seenCurrent := fun c hc => by
      rw [hkey, Option.some.injEq] at hc
      simp [hc]
    origin := hstop.origin
    originCurrent := Or.inr ⟨⟨it.params, .ok page⟩, List.mem_cons_self,
      hkey.trans hmore.symm, by simp [Fetched.offered, hmore]⟩ }

theorem next {source : Source σ T} (h : Inv initial it source.log) :
    Inv initial (it.next (logged fetch) source).2.1 (it.next (logged fetch) source).2.2.log := by
  cases next_case (logged fetch) it source with
  | exhausted hex heq => rwa [heq]
  | failed hex error hreply heq =>
    rw [heq]
    have hfail : (fetch it.params source.world).1 = .error error := hreply
    have hunmet : (Fetched.mk it.params (fetch it.params source.world).1).succeeded = false := by
      simp [Fetched.succeeded, hfail]
    have hstep : Inv initial { it with exhausted := it.exhausted } _ :=
      h.fetched hex _ (Or.inr hunmet)
    exact hstep
  | last hex page hreply hmore heq =>
    rw [heq]
    exact h.fetched hex _ (Or.inl rfl)
  | repeated hex page cursor hreply hmore hseen heq =>
    rw [heq]
    exact h.fetched hex _ (Or.inl rfl)
  | advanced hex page cursor hreply hmore hfresh heq =>
    rw [heq]
    have hok : (fetch it.params source.world).1 = .ok page := hreply
    have hstep := h.advanced hex hmore hfresh
    rw [← hok] at hstep
    exact hstep

end Inv

theorem collectFrom_succ (fuel : Nat) (all : List T) :
    it.collectFrom fetch (fuel + 1) all s =
      if it.exhausted then (some (.ok all), it, s)
      else
        match (it.next fetch s).1 with
        | .error error => (some (.error error), (it.next fetch s).2)
        | .ok page =>
          (it.next fetch s).2.1.collectFrom fetch fuel (all ++ page) (it.next fetch s).2.2 := by
  rw [collectFrom]
  split_ifs
  · rfl
  · obtain ⟨result, it', s'⟩ := it.next fetch s
    cases result <;> rfl

theorem collectFrom_invariant {Q : PaginatedIterator → Source σ T → Prop}
    (hnext : ∀ it source, Q it source →
      Q (it.next (logged fetch) source).2.1 (it.next (logged fetch) source).2.2)
    {fuel : Nat} {all : List T} {source : Source σ T} (h : Q it source) :
    Q (it.collectFrom (logged fetch) fuel all source).2.1
      (it.collectFrom (logged fetch) fuel all source).2.2 := by
  induction fuel generalizing it source all with
  | zero => exact h
  | succ fuel ih =>
    rw [collectFrom_succ]
    split_ifs
    · exact h
    · cases (it.next (logged fetch) source).1 with
      | error error => exact hnext it source h
      | ok page => exact ih (hnext it source h)

theorem run_invariant (fetch : PaginationParams → σ → Result (PaginatedResponse T) × σ)
    {Q : PaginatedIterator → Source σ T → Prop}
    (hnext : ∀ it source, Q it source →
      Q (it.next (logged fetch) source).2.1 (it.next (logged fetch) source).2.2)
    (session : Session σ T) (h : Q session.iter session.source) (callsOn : List Call) :
    Q (run fetch session callsOn).iter (run fetch session callsOn).source := by
  induction callsOn generalizing session with
  | nil => exact h
  | cons callOn callsOn ih =>
    apply ih
    cases callOn with
    | next => exact hnext _ _ h
    | collectAll rounds => exact collectFrom_invariant hnext h

def LogOffers (cursors : Finset Text) (log : List (Fetched T)) : Prop :=
  ∀ f ∈ log, ∀ c, f.offered = some c → c ∈ cursors

/-- The requests that succeeded are distinct, and each is the first one or names
a cursor that the source has offered. -/
theorem Inv.succeeded_le {log : List (Fetched T)} (h : Inv initial it log) {cursors : Finset Text}
    (hc : LogOffers cursors log) :
    log.countP Fetched.succeeded ≤ cursors.card + 1 := by
  have hnodup : ((log.filter Fetched.succeeded).map fun f => cursorKey f.params).Nodup := by
    rw [List.Nodup, List.pairwise_map]
    refine (h.once.filter _).imp_of_mem fun {newer older} _ ho hne => ?_
    exact hne (List.mem_filter.mp ho).2
  have hsub : ((log.filter Fetched.succeeded).map fun f => cursorKey f.params).toFinset ⊆
      insert (cursorKey initial) (cursors.image some) := by
    intro key hkey
    obtain ⟨f, hf, rfl⟩ := List.mem_map.mp (List.mem_toFinset.mp hkey)
    rcases h.origin f (List.mem_of_mem_filter hf) with heq | ⟨g, hg, heq, hsome⟩
    · rw [heq]
      exact Finset.mem_insert_self _ _
    · obtain ⟨c, hoffer⟩ := Option.isSome_iff_exists.mp hsome
      rw [heq, hoffer]
      exact Finset.mem_insert_of_mem (Finset.mem_image_of_mem some (hc g hg c hoffer))
  calc log.countP Fetched.succeeded
      = ((log.filter Fetched.succeeded).map fun f => cursorKey f.params).toFinset.card := by
        rw [List.toFinset_card_of_nodup hnodup, List.length_map, List.countP_eq_length_filter]
    _ ≤ (insert (cursorKey initial) (cursors.image some)).card := Finset.card_le_card hsub
    _ ≤ (cursors.image some).card + 1 := Finset.card_insert_le _ _
    _ ≤ cursors.card + 1 := Nat.add_le_add_right Finset.card_image_le 1

/-- The source offers no cursors but these. -/
def OffersIn (fetch : PaginationParams → σ → Result (PaginatedResponse T) × σ)
    (cursors : Finset Text) : Prop :=
  ∀ params s page, (fetch params s).1 = .ok page → ∀ c, page.more = some c → c ∈ cursors

theorem next_ok_succeeded {source : Source σ T} {page : List T} (hex : it.exhausted = false)
    (hok : (it.next (logged fetch) source).1 = .ok page) :
    (it.next (logged fetch) source).2.2.log.countP Fetched.succeeded =
      source.log.countP Fetched.succeeded + 1 := by
  have hlog : ∀ page', (logged fetch it.params source).1 = .ok page' →
      (logged fetch it.params source).2.log.countP Fetched.succeeded =
        source.log.countP Fetched.succeeded + 1 := by
    intro page' hreply
    have hfetch : (fetch it.params source.world).1 = .ok page' := hreply
    rw [logged]
    exact List.countP_cons_of_pos (by simp [Fetched.succeeded, hfetch])
  cases next_case (logged fetch) it source with
  | exhausted hdone => simp [hdone] at hex
  | failed _ error _ heq => simp [heq] at hok
  | last _ page' hreply _ heq => rw [heq]; exact hlog page' hreply
  | repeated _ _ _ _ _ _ heq => simp [heq] at hok
  | advanced _ page' _ hreply _ _ heq => rw [heq]; exact hlog page' hreply

theorem LogOffers.next {cursors : Finset Text} (hoffers : OffersIn fetch cursors)
    {source : Source σ T} (h : LogOffers cursors source.log) :
    LogOffers cursors (it.next (logged fetch) source).2.2.log := by
  have hlog : LogOffers cursors (logged fetch it.params source).2.log := by
    refine List.forall_mem_cons.mpr ⟨fun c hc => ?_, h⟩
    cases hreply : (fetch it.params source.world).1 with
    | error error => simp [Fetched.offered, hreply] at hc
    | ok page =>
      simp only [Fetched.offered, hreply] at hc
      exact hoffers _ _ page hreply c hc
  cases next_case (logged fetch) it source with
  | exhausted _ heq => rwa [heq]
  | failed _ _ _ heq => rwa [heq]
  | last _ _ _ _ heq => rwa [heq]
  | repeated _ _ _ _ _ _ heq => rwa [heq]
  | advanced _ _ _ _ _ _ heq => rwa [heq]

theorem collectFrom_ends {cursors : Finset Text} (hoffers : OffersIn fetch cursors) {fuel : Nat}
    {all : List T} {source : Source σ T} (h : Inv initial it source.log)
    (hlog : LogOffers cursors source.log)
    (hfuel : cursors.card + 2 ≤ fuel + source.log.countP Fetched.succeeded) :
    (it.collectFrom (logged fetch) fuel all source).1.isSome := by
  induction fuel generalizing it source all with
  | zero =>
    have := h.succeeded_le hlog
    omega
  | succ fuel ih =>
    rw [collectFrom_succ]
    split_ifs with hex
    · rfl
    · cases hnext : (it.next (logged fetch) source).1 with
      | error error => rfl
      | ok page =>
        have hcount := next_ok_succeeded (by simpa using hex) hnext
        exact ih h.next (hlog.next hoffers) (by omega)

theorem next_of_error (hex : it.exhausted = false) {error : Error}
    (hreply : (fetch it.params s).1 = .error error) :
    it.next fetch s = (.error error, it, (fetch it.params s).2) := by
  cases next_case fetch it s with
  | exhausted h => simp [h] at hex
  | failed _ _ h heq =>
    rw [hreply, Except.error.injEq] at h
    rw [heq, h]
  | last _ _ h => simp [hreply] at h
  | repeated _ _ _ h => simp [hreply] at h
  | advanced _ _ _ h => simp [hreply] at h

theorem run_of_exhausted {session : Session σ T} (h : session.iter.exhausted = true)
    (callsOn : List Call) : run fetch session callsOn = session := by
  induction callsOn with
  | nil => rfl
  | cons callOn callsOn ih =>
    have hcall : session.call fetch callOn = session := by
      cases callOn with
      | next => rw [Session.call, next, if_pos h]
      | collectAll rounds =>
        cases rounds with
        | zero => rfl
        | succ rounds => rw [Session.call, collectAll, collectFrom_succ, if_pos h]
    rw [run, List.foldl_cons, hcall]
    exact ih

/-- What is promised of an iterator at any moment of a run. -/
structure Disciplined (fetch : PaginationParams → σ → Result (PaginatedResponse T) × σ)
    (initial : PaginationParams) (session : Session σ T) : Prop where
  once : Once session.source.log
  limits : ∀ f ∈ session.source.log, f.params.limit = initial.limit
  ended : session.iter.exhausted = true →
    (∀ callsOn, run fetch session callsOn = session) ∧
      (session.iter.next fetch session.source.world).1 = .ok []
  unchanged : session.iter.exhausted = false → ∀ error,
    (fetch session.iter.params session.source.world).1 = .error error →
      (session.iter.next fetch session.source.world).1 = .error error ∧
        (session.call fetch .next).iter = session.iter
  bounded : ∀ cursors, LogOffers cursors session.source.log →
    session.source.log.countP Fetched.succeeded ≤ cursors.card + 1
  ends : ∀ cursors, OffersIn fetch cursors → ∀ rounds, cursors.card + 2 ≤ rounds →
    (session.iter.collectAll (logged fetch) rounds session.source).1.isSome

theorem disciplined_run (fetch : PaginationParams → σ → Result (PaginatedResponse T) × σ)
    (initial : PaginationParams) (world : σ) (callsOn : List Call) :
    Disciplined fetch initial (run fetch (Session.init initial world) callsOn) := by
  have hinv := run_invariant fetch (Q := fun it source => Inv initial it source.log)
    (fun it source h => h.next) (Session.init initial world) (Inv.start initial) callsOn
  generalize hfinal : run fetch (Session.init initial world) callsOn = final at hinv
  exact {
    once := hinv.once
    limits := hinv.limits
    ended := fun h => ⟨run_of_exhausted h, by rw [next, if_pos h]⟩
    unchanged := fun hex error hreply => by
      have hlogged : final.iter.next (logged fetch) final.source =
          (.error error, final.iter, (logged fetch final.iter.params final.source).2) :=
        next_of_error hex hreply
      rw [next_of_error hex hreply, Session.call, hlogged]
      exact ⟨rfl, rfl⟩
    bounded := fun cursors hlog => hinv.succeeded_le hlog
    ends := fun cursors hoffers rounds hrounds => by
      have hlog := run_invariant fetch (Q := fun _ source => LogOffers cursors source.log)
        (fun it source h => h.next hoffers) (Session.init initial world)
        (by simp [Session.init, LogOffers]) callsOn
      rw [hfinal] at hlog
      exact collectFrom_ends hoffers hinv hlog (by omega) }

/-- The cursor that asks for page `i` of a chain. -/
def chainKey (initial : PaginationParams) (pages : List (PaginatedResponse T)) : Nat → Option Text
  | 0 => cursorKey initial
  | i + 1 => pages[i]?.bind PaginatedResponse.more

/-- A source that is a finite chain of pages with distinct cursors; it may fail at
any call, and what it answers is the page asked for. -/
structure Chain (fetch : PaginationParams → σ → Result (PaginatedResponse T) × σ)
    (initial : PaginationParams) (pages : List (PaginatedResponse T)) : Prop where
  nonempty : pages ≠ []
  linked : ∀ i, i + 1 < pages.length → (chainKey initial pages (i + 1)).isSome
  last : chainKey initial pages pages.length = none
  distinct : ∀ i j, i < pages.length → j < pages.length →
    chainKey initial pages i = chainKey initial pages j → i = j
  serves : ∀ i page params s reply, pages[i]? = some page →
    cursorKey params = chainKey initial pages i → (fetch params s).1 = .ok reply → reply = page

structure AtPage (initial : PaginationParams) (pages : List (PaginatedResponse T)) (m : Nat)
    (it : PaginatedIterator) : Prop where
  exhausted : it.exhausted = decide (pages.length ≤ m)
  key : m < pages.length → cursorKey it.params = chainKey initial pages m
  seen : ∀ c ∈ it.seenCursors, ∃ j, j ≤ m ∧ chainKey initial pages j = some c

/-- The items of page `i`, and nothing behind the last page. -/
def pageData (pages : List (PaginatedResponse T)) (i : Nat) : List T :=
  (pages[i]?.map PaginatedResponse.data).getD []

def nexts (fetch : PaginationParams → σ → Result (PaginatedResponse T) × σ) :
    Nat → PaginatedIterator → σ → List (Result (List T)) × PaginatedIterator
  | 0, it, _ => ([], it)
  | n + 1, it, s =>
    let result := it.next fetch s
    let rest := nexts fetch n result.2.1 result.2.2
    (result.1 :: rest.1, rest.2)

def successes (results : List (Result (List T))) : List (List T) := results.filterMap Except.toOption

namespace Chain

variable {pages : List (PaginatedResponse T)} {m : Nat}

theorem atPage_start (h : Chain fetch initial pages) :
    AtPage initial pages 0 (PaginatedIterator.start initial) where
  exhausted := by
    have := List.length_pos_iff.mpr h.nonempty
    simp [PaginatedIterator.start, h.nonempty]
  key := fun _ => rfl
  seen c hc := ⟨0, le_rfl, by simpa [PaginatedIterator.start, chainKey] using hc⟩

theorem goes_on_iff (h : Chain fetch initial pages) (hm : m < pages.length) :
    (chainKey initial pages (m + 1)).isSome ↔ m + 1 < pages.length := by
  refine ⟨fun hkey => ?_, h.linked m⟩
  by_contra hge
  have hlast := h.last
  rw [show pages.length = m + 1 by omega] at hlast
  simp [hlast] at hkey

theorem next (h : Chain fetch initial pages) (hat : AtPage initial pages m it) (s : σ) :
    (∃ error, it.next fetch s = (.error error, it, (fetch it.params s).2)) ∨
    ((it.next fetch s).1 = .ok (pageData pages m) ∧
      AtPage initial pages (m + 1) (it.next fetch s).2.1) := by
  have hrunning : it.exhausted = false → m < pages.length := fun hex => by
    rw [hat.exhausted, decide_eq_false_iff_not] at hex
    omega
  have hpage : ∀ page, it.exhausted = false → (fetch it.params s).1 = .ok page →
      pages[m]? = some page := by
    intro page hex hreply
    have hm := hrunning hex
    have hget := List.getElem?_eq_getElem hm
    rw [hget, h.serves m _ _ s page hget (hat.key hm) hreply]
  have hseen : ∀ c ∈ it.seenCursors, ∃ j, j ≤ m + 1 ∧ chainKey initial pages j = some c :=
    fun c hc => (hat.seen c hc).imp fun j hj => ⟨hj.1.trans (Nat.le_succ m), hj.2⟩
  cases next_case fetch it s with
  | exhausted hex heq =>
    have hm : pages.length ≤ m := by simpa [hat.exhausted] using hex
    refine Or.inr ⟨?_, ?_⟩
    · rw [heq, pageData, List.getElem?_eq_none hm]
      rfl
    · rw [heq]
      exact ⟨by simp [hex]; omega, fun hlt => by omega, hseen⟩
  | failed _ error _ heq => exact Or.inl ⟨error, heq⟩
  | last hex page hreply hmore heq =>
    have hget := hpage page hex hreply
    have hkey : chainKey initial pages (m + 1) = none := by simp [chainKey, hget, hmore]
    have hend : pages.length ≤ m + 1 := by
      rw [← not_lt, ← h.goes_on_iff (hrunning hex), hkey]
      simp
    refine Or.inr ⟨?_, ?_⟩
    · rw [heq, pageData, hget]
      rfl
    · rw [heq]
      exact ⟨by simpa using hend, fun hlt => by omega, hseen⟩
  | repeated hex page cursor hreply hmore hin heq =>
    have hm := hrunning hex
    have hkey : chainKey initial pages (m + 1) = some cursor := by
      simp [chainKey, hpage page hex hreply, hmore]
    have hlt : m + 1 < pages.length := (h.goes_on_iff hm).mp (by simp [hkey])
    obtain ⟨j, hj, hjkey⟩ := hat.seen cursor hin
    have := h.distinct j (m + 1) (by omega) hlt (hjkey.trans hkey.symm)
    omega
  | advanced hex page cursor hreply hmore hfresh heq =>
    have hm := hrunning hex
    have hget := hpage page hex hreply
    have hkey : chainKey initial pages (m + 1) = some cursor := by simp [chainKey, hget, hmore]
    have hlt : m + 1 < pages.length := (h.goes_on_iff hm).mp (by simp [hkey])
    refine Or.inr ⟨?_, ?_⟩
    · rw [heq, pageData, hget]
      rfl
    · rw [heq]
      refine ⟨by simpa [hex] using hlt, fun _ => ?_, fun c hc => ?_⟩
      · exact (cursorKey_some (more_ne_nil hmore)).trans hkey.symm
      · rcases List.mem_cons.mp hc with rfl | hc
        · exact ⟨m + 1, le_rfl, hkey⟩
        · exact hseen c hc

theorem nexts (h : Chain fetch initial pages) (n : Nat) (hat : AtPage initial pages m it) (s : σ) :
    ∃ k, successes (PaginatedIterator.nexts fetch n it s).1 =
        (List.range' m k).map (pageData pages) ∧
      AtPage initial pages (m + k) (PaginatedIterator.nexts fetch n it s).2 := by
  induction n generalizing it s m with
  | zero => exact ⟨0, rfl, hat⟩
  | succ n ih =>
    rw [PaginatedIterator.nexts]
    rcases h.next hat s with ⟨error, heq⟩ | ⟨hok, hnext⟩
    · obtain ⟨k, hk, hend⟩ := ih hat (fetch it.params s).2
      rw [heq]
      exact ⟨k, hk, hend⟩
    · obtain ⟨k, hk, hend⟩ := ih hnext (it.next fetch s).2.2
      refine ⟨k + 1, ?_, by rwa [Nat.add_right_comm] at hend⟩
      simp only [successes] at hk ⊢
      rw [List.filterMap_cons, hok, Except.toOption, hk, List.range'_succ, List.map_cons]

/-- The successful results are the pages in order, each once, then empty ones;
and the iterator is exhausted once all of them have come. -/
theorem successes_eq (h : Chain fetch initial pages) (n : Nat) (s : σ) :
    let results := PaginatedIterator.nexts fetch n (PaginatedIterator.start initial) s
    let count := (successes results.1).length
    successes results.1 = (pages.map PaginatedResponse.data).take count ++
        List.replicate (count - pages.length) [] ∧
      (results.2.exhausted = true ↔ pages.length ≤ count) := by
  obtain ⟨k, hk, hend⟩ := h.nexts n h.atPage_start s
  have hcount := congrArg List.length hk
  rw [List.length_map, List.length_range'] at hcount
  simp only [hcount, hend.exhausted, Nat.zero_add, decide_eq_true_eq, and_true]
  rw [hk]
  apply List.ext_getElem
  · simp
    omega
  · intro i h1 h2
    by_cases hi : i < pages.length
    · rw [List.getElem_append_left (by simp at h1 ⊢; omega)]
      simp [pageData, hi]
    · rw [List.getElem_append_right (by simp; omega)]
      simp [pageData, hi]

end Chain

/-- Every run of an iterator is disciplined, whatever its source; and on a chain of
pages the successful results of `next` are the pages. -/
theorem pages_exactly_once (fetch : PaginationParams → σ → Result (PaginatedResponse T) × σ)
    (initial : PaginationParams) (world : σ) :
    (∀ callsOn, Disciplined fetch initial (run fetch (Session.init initial world) callsOn)) ∧
    ∀ pages, Chain fetch initial pages → ∀ n,
      let results := nexts fetch n (PaginatedIterator.start initial) world
      let count := (successes results.1).length
      successes results.1 = (pages.map PaginatedResponse.data).take count ++
          List.replicate (count - pages.length) [] ∧
        (results.2.exhausted = true ↔ pages.length ≤ count) :=
  ⟨disciplined_run fetch initial world, fun _ h n => h.successes_eq n world⟩

/-- Two pages, from a source that fails at every other call. -/
def flakyPages : List (PaginatedResponse Nat) := [⟨[1, 2], some [97]⟩, ⟨[3], none⟩]

def flakyFetch (params : PaginationParams) (calls : Nat) : Result (PaginatedResponse Nat) × Nat :=
  if calls % 2 = 0 then (.error (Error.network []), calls + 1)
  else if cursorKey params = none then (.ok ⟨[1, 2], some [97]⟩, calls + 1)
  else (.ok ⟨[3], none⟩, calls + 1)

theorem chain_flaky : Chain flakyFetch {} flakyPages where
  nonempty := by decide
  linked i hi := (by decide : ∀ i < 1, (chainKey {} flakyPages (i + 1)).isSome) i
    (Nat.lt_of_succ_lt_succ hi)
  last := by decide
  distinct i j hi hj := (by decide : ∀ i < 2, ∀ j < 2,
    chainKey {} flakyPages i = chainKey {} flakyPages j → i = j) i hi j hj
  serves i page params s reply hpage hkey hreply := by
    have hi : i < 2 := (List.getElem?_eq_some_iff.mp hpage).1
    rw [flakyFetch] at hreply
    obtain rfl | rfl : i = 0 ∨ i = 1 := by omega
    · have hfirst : cursorKey params = none := hkey
      rw [if_pos hfirst] at hreply
      split_ifs at hreply
      exact (Except.ok.inj hreply).symm.trans (Option.some.inj hpage)
    · have hsecond : cursorKey params ≠ none := by
        rw [hkey]
        decide
      rw [if_neg hsecond] at hreply
      split_ifs at hreply
      exact (Except.ok.inj hreply).symm.trans (Option.some.inj hpage)

theorem pages_exactly_once_flaky :
    Disciplined flakyFetch {} (run flakyFetch (Session.init {} 0) [.next, .collectAll 9]) ∧
      successes (nexts flakyFetch 4 (PaginatedIterator.start {}) 0).1 = [[1, 2], [3]] ∧
      (nexts flakyFetch 4 (PaginatedIterator.start {}) 0).2.exhausted = true := by
  obtain ⟨hrun, hchain⟩ := pages_exactly_once flakyFetch {} 0
  obtain ⟨hpages, hend⟩ := hchain flakyPages chain_flaky 4
  have hcount : (successes (nexts flakyFetch 4 (PaginatedIterator.start {}) 0).1).length = 2 := by
    decide
  rw [hcount] at hpages hend
  exact ⟨hrun _, hpages, hend.mpr (by decide)⟩

end PaginatedIterator

end NwsCpp
