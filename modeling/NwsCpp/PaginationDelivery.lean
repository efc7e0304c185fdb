import NwsCpp.PaginationRuns

/-! What the calls on an iterator deliver between them: `collect_all` loses the pages
that it has fetched when a later fetch fails. -/

namespace NwsCpp

namespace PaginatedIterator

variable {T σ : Type*} {fetch : PaginationParams → σ → Result (PaginatedResponse T) × σ}
  {it : PaginatedIterator} {s : σ} {initial : PaginationParams}

/-- One call and its result, which a `collectAll` that runs out of rounds does not have. -/
def answer (fetch : PaginationParams → σ → Result (PaginatedResponse T) × σ)
    (it : PaginatedIterator) (s : σ) : Call → Option (Result (List T)) × PaginatedIterator × σ
  | .next => (some (it.next fetch s).1, (it.next fetch s).2)
  | .collectAll rounds => it.collectAll fetch rounds s

def answers (fetch : PaginationParams → σ → Result (PaginatedResponse T) × σ) :
    List Call → PaginatedIterator → σ → List (Option (Result (List T)))
  | [], _, _ => []
  | callOn :: callsOn, it, s =>
    let result := it.answer fetch s callOn
    result.1 :: answers fetch callsOn result.2.1 result.2.2

def delivered (results : List (Option (Result (List T)))) : List T :=
  (successes results.reduceOption).flatten

/-- What the source hands over, asked page after page, before it fails; `none` when
it gets to its last page, or through `n` pages. -/
def beforeFailure (fetch : PaginationParams → σ → Result (PaginatedResponse T) × σ) :
    Nat → PaginationParams → σ → Option (List T)
  | 0, _, _ => none
  | n + 1, params, s =>
    match fetch params s with
    | (.error _, _) => some []
    | (.ok page, s) =>
      match page.more with
      | none => none
      | some cursor =>
        (beforeFailure fetch n { params with cursor := some cursor } s).map (page.data ++ ·)

/-- A `collect_all` that meets a failure meets it before any items. -/
def Unspoiled (fetch : PaginationParams → σ → Result (PaginatedResponse T) × σ) (n : Nat)
    (it : PaginatedIterator) (s : σ) : Call → Prop
  | .next => True
  | .collectAll _ => it.exhausted = false → ∀ items,
    beforeFailure fetch n it.params s = some items → items = []

def AllUnspoiled (fetch : PaginationParams → σ → Result (PaginatedResponse T) × σ) (n : Nat) :
    List Call → PaginatedIterator → σ → Prop
  | [], _, _ => True
  | callOn :: callsOn, it, s =>
    it.Unspoiled fetch n s callOn ∧
      AllUnspoiled fetch n callsOn (it.answer fetch s callOn).2.1 (it.answer fetch s callOn).2.2

section Delivered

variable {results : List (Option (Result (List T)))}

@[simp] theorem delivered_nil : delivered ([] : List (Option (Result (List T)))) = [] := rfl

@[simp] theorem delivered_ok (items : List T) :
    delivered (some (.ok items) :: results) = items ++ delivered results := by
  simp [delivered, successes, List.reduceOption, Except.toOption]

@[simp] theorem delivered_error (error : Error) :
    delivered (some (.error error) :: results) = delivered results := rfl

end Delivered

def segment (pages : List (PaginatedResponse T)) (m k : Nat) : List T :=
  (List.range' m k).flatMap (pageData pages)

section Segment

variable {pages : List (PaginatedResponse T)} {m k l : Nat}

@[simp] theorem segment_zero : segment pages m 0 = [] := rfl

theorem segment_succ : segment pages m (k + 1) = pageData pages m ++ segment pages (m + 1) k := by
  rw [segment, List.range'_succ, List.flatMap_cons, segment]

theorem segment_add : segment pages m (k + l) = segment pages m k ++ segment pages (m + k) l := by
  rw [segment, ← List.range'_append_1, List.flatMap_append, segment, segment]

theorem segment_all (h : pages.length ≤ k) :
    segment pages 0 k = pages.flatMap PaginatedResponse.data := by
  obtain ⟨l, rfl⟩ := Nat.exists_eq_add_of_le h
  have hbehind : segment pages (0 + pages.length) l = [] := by
    rw [segment, List.flatMap_eq_nil_iff]
    intro i hi
    rw [pageData, List.getElem?_eq_none (by have := List.mem_range'_1.mp hi; omega)]
    rfl
  have hpages : (List.range' 0 pages.length).map (pageData pages) =
      pages.map PaginatedResponse.data := by
    apply List.ext_getElem
    · simp
    · intro i h1 h2
      simp [pageData, List.getElem?_eq_getElem (by simpa using h2 : i < pages.length)]
  rw [segment_add, hbehind, List.append_nil, segment, List.flatMap_def, hpages, List.flatMap_def]

end Segment

namespace Chain

variable {pages : List (PaginatedResponse T)} {m : Nat}

/-- Before the end of the chain `next` asks the source for page `m`: the iterator stays
where the source fails, and is at page `m + 1` where it does not. -/
theorem asks (h : Chain fetch initial pages) (hat : AtPage initial pages m it)
    (hm : m < pages.length) (s : σ) (n : Nat) :
    (∃ error, it.next fetch s = (.error error, it, (fetch it.params s).2) ∧
      beforeFailure fetch (n + 1) it.params s = some []) ∨
    ((it.next fetch s).1 = .ok (pageData pages m) ∧
      AtPage initial pages (m + 1) (it.next fetch s).2.1 ∧
      beforeFailure fetch (n + 1) it.params s =
        if pages.length ≤ m + 1 then none
        else (beforeFailure fetch n (it.next fetch s).2.1.params (it.next fetch s).2.2).map
          (pageData pages m ++ ·)) := by
  have hex : it.exhausted = false := by simp [hat.exhausted, hm]
  have hpair : ∀ {outcome}, (fetch it.params s).1 = outcome →
      fetch it.params s = (outcome, (fetch it.params s).2) := fun hr => Prod.ext hr rfl
  cases next_case fetch it s with
  | exhausted hdone => simp [hdone] at hex
  | failed _ error hreply heq =>
    refine Or.inl ⟨error, heq, ?_⟩
    rw [beforeFailure, hpair hreply]
  | last _ page hreply hmore heq =>
    obtain ⟨hok, hnext⟩ := (h.next hat s).resolve_left (by simp [heq])
    have hend : pages.length ≤ m + 1 := by simpa [heq] using hnext.exhausted
    refine Or.inr ⟨hok, hnext, ?_⟩
    rw [if_pos hend, beforeFailure, hpair hreply]
    simp only [hmore]
  | repeated _ page cursor _ _ _ heq =>
    -- the iterator would have stayed as it was, or delivered the page
    rcases h.next hat s with ⟨error, hfail⟩ | ⟨hok, -⟩
    · rw [heq] at hfail
      have hdone : true = it.exhausted := congrArg (·.2.1.exhausted) hfail
      simp [hex] at hdone
    · simp [heq] at hok
  | advanced _ page cursor hreply hmore _ heq =>
    obtain ⟨hok, hnext⟩ := (h.next hat s).resolve_left (by simp [heq])
    have hgoes : ¬ pages.length ≤ m + 1 := by simpa [heq, hex] using hnext.exhausted
    have hdata : page.data = pageData pages m := by simpa [heq] using hok
    refine Or.inr ⟨hok, hnext, ?_⟩
    rw [if_neg hgoes, beforeFailure, hpair hreply, heq]
    simp only [hmore, hdata]

/-- The loop of `collect_all` gets to the end of the chain with the items of all its
pages, or fails after some pages, whose items stay behind. -/
theorem collectFrom (h : Chain fetch initial pages) {fuel n : Nat}
    (hat : AtPage initial pages m it) (hfuel : pages.length - m < fuel)
    (hn : pages.length ≤ m + n) (all : List T) (s : σ) :
    ∃ k, AtPage initial pages (m + k) (it.collectFrom fetch fuel all s).2.1 ∧
      (((it.collectFrom fetch fuel all s).1 = some (.ok (all ++ segment pages m k)) ∧
        pages.length ≤ m + k ∧
          (it.exhausted = false → beforeFailure fetch n it.params s = none)) ∨
      ∃ error, (it.collectFrom fetch fuel all s).1 = some (.error error) ∧
        it.exhausted = false ∧
        beforeFailure fetch n it.params s = some (segment pages m k)) := by
  induction fuel generalizing it s m n all with
  | zero => omega
  | succ fuel ih =>
    rw [collectFrom_succ]
    by_cases hend : pages.length ≤ m
    · have hex : it.exhausted = true := by simp [hat.exhausted, hend]
      rw [if_pos hex]
      exact ⟨0, hat, Or.inl ⟨by simp, hend, by simp [hex]⟩⟩
    · have hex : it.exhausted = false := by simp [hat.exhausted, hend]
      obtain ⟨n, rfl⟩ : ∃ n', n = n' + 1 := Nat.exists_eq_add_one_of_ne_zero (by omega)
      rw [if_neg (by simp [hex])]
      rcases h.asks hat (not_le.mp hend) s n with ⟨error, heq, hbefore⟩ | ⟨hok, hnext, hbefore⟩
      · rw [heq]
        exact ⟨0, hat, Or.inr ⟨error, rfl, hex, hbefore⟩⟩
      · rw [hok]
        obtain ⟨k, hk, hresult⟩ := ih (n := n) hnext (by omega) (by omega)
          (all ++ pageData pages m) (it.next fetch s).2.2
        refine ⟨k + 1, by rwa [Nat.add_right_comm] at hk, ?_⟩
        rw [segment_succ, ← List.append_assoc, hbefore]
        rcases hresult with ⟨hall, hlast, hnone⟩ | ⟨error, herror, hrunning, hlost⟩
        · refine Or.inl ⟨hall, by omega, fun _ => ?_⟩
          split_ifs with hlt
          · rfl
          · rw [hnone (by simp [hnext.exhausted, hlt]), Option.map_none]
        · refine Or.inr ⟨error, herror, hex, ?_⟩
          have hlt : ¬ pages.length ≤ m + 1 := by simpa [hnext.exhausted] using hrunning
          rw [if_neg hlt, hlost, Option.map_some]

/-- One call: the iterator passes `k` pages, and their items are the result; or the call
fails, and their items are lost. -/
theorem answer (h : Chain fetch initial pages) (hat : AtPage initial pages m it)
    {callOn : Call} (hrounds : ∀ rounds, callOn = .collectAll rounds → pages.length < rounds)
    (s : σ) :
    ∃ k, AtPage initial pages (m + k) (it.answer fetch s callOn).2.1 ∧
      (((it.answer fetch s callOn).1 = some (.ok (segment pages m k)) ∧
        it.Unspoiled fetch pages.length s callOn ∧
          ((∃ rounds, callOn = .collectAll rounds) → pages.length ≤ m + k)) ∨
      ∃ error, (it.answer fetch s callOn).1 = some (.error error) ∧
        (it.Unspoiled fetch pages.length s callOn ↔ segment pages m k = [])) := by
  cases callOn with
  | next =>
    rcases h.next hat s with ⟨error, heq⟩ | ⟨hok, hnext⟩
    · refine ⟨0, ?_, Or.inr ⟨error, ?_, by simp [Unspoiled]⟩⟩
      · rwa [PaginatedIterator.answer, heq]
      · rw [PaginatedIterator.answer, heq]
    · refine ⟨1, hnext, Or.inl ⟨?_, trivial, by simp⟩⟩
      rw [PaginatedIterator.answer, hok, segment_succ, segment_zero, List.append_nil]
  | collectAll rounds =>
    have hfuel := hrounds rounds rfl
    obtain ⟨k, hk, hresult⟩ := h.collectFrom hat (by omega : pages.length - m < rounds)
      (by omega : pages.length ≤ m + pages.length) [] s
    refine ⟨k, hk, ?_⟩
    rcases hresult with ⟨hall, hend, hnone⟩ | ⟨error, herror, hex, hlost⟩
    · refine Or.inl ⟨hall, fun hex items hitems => ?_, fun _ => hend⟩
      simp [hnone hex] at hitems
    · refine Or.inr ⟨error, herror, ?_⟩
      simp [Unspoiled, hex, hlost]

/-- A run of calls from page `m` on passes `k` pages and delivers their items, less
those that the failed calls have lost. -/
structure Passes (fetch : PaginationParams → σ → Result (PaginatedResponse T) × σ)
    (pages : List (PaginatedResponse T)) (m k : Nat) (callsOn : List Call)
    (it : PaginatedIterator) (s : σ) : Prop where
  returned : ∀ result ∈ answers fetch callsOn it s, result.isSome
  sublist : (delivered (answers fetch callsOn it s)).Sublist (segment pages m k)
  all_iff : delivered (answers fetch callsOn it s) = segment pages m k ↔
    AllUnspoiled fetch pages.length callsOn it s
  ended : ∀ rounds items, callsOn.getLast? = some (.collectAll rounds) →
    (answers fetch callsOn it s).getLast? = some (some (.ok items)) → pages.length ≤ m + k

namespace Passes

variable {callOn : Call} {callsOn : List Call} {k l : Nat}

theorem nil : Passes fetch pages m 0 [] it s where
  returned := by simp [answers]
  sublist := by simp [answers]
  all_iff := by simp [answers, AllUnspoiled]
  ended := by simp

theorem ended_cons (h : Passes fetch pages (m + k) l callsOn (it.answer fetch s callOn).2.1
      (it.answer fetch s callOn).2.2)
    (hend : ∀ rounds items, callOn = .collectAll rounds →
      (it.answer fetch s callOn).1 = some (.ok items) → pages.length ≤ m + k)
    (rounds : Nat) (items : List T) (hcalls : (callOn :: callsOn).getLast? = some (.collectAll rounds))
    (hresults : (answers fetch (callOn :: callsOn) it s).getLast? = some (some (.ok items))) :
    pages.length ≤ m + (k + l) := by
  rw [answers] at hresults
  cases callsOn with
  | nil =>
    simp only [List.getLast?_singleton, Option.some.injEq] at hcalls
    simp only [answers, List.getLast?_singleton, Option.some.injEq] at hresults
    exact (hend rounds items hcalls hresults).trans (by omega)
  | cons callOn' callsOn =>
    rw [List.getLast?_cons_cons] at hcalls
    have hlast := h.ended rounds items hcalls hresults
    omega

theorem cons_ok (h : Passes fetch pages (m + k) l callsOn (it.answer fetch s callOn).2.1
      (it.answer fetch s callOn).2.2)
    (hok : (it.answer fetch s callOn).1 = some (.ok (segment pages m k)))
    (hclean : it.Unspoiled fetch pages.length s callOn)
    (hend : (∃ rounds, callOn = .collectAll rounds) → pages.length ≤ m + k) :
    Passes fetch pages m (k + l) (callOn :: callsOn) it s where
  returned := List.forall_mem_cons.mpr ⟨by simp [hok], h.returned⟩
  sublist := by
    rw [answers, hok, delivered_ok, segment_add]
    exact h.sublist.append_left _
  all_iff := by
    rw [answers, hok, delivered_ok, segment_add, List.append_cancel_left_eq, AllUnspoiled, h.all_iff]
    exact (and_iff_right hclean).symm
  ended := h.ended_cons fun rounds _ hcall _ => hend ⟨rounds, hcall⟩

theorem cons_error (h : Passes fetch pages (m + k) l callsOn (it.answer fetch s callOn).2.1
      (it.answer fetch s callOn).2.2)
    {error : Error} (herror : (it.answer fetch s callOn).1 = some (.error error))
    (hclean : it.Unspoiled fetch pages.length s callOn ↔ segment pages m k = []) :
    Passes fetch pages m (k + l) (callOn :: callsOn) it s where
  returned := List.forall_mem_cons.mpr ⟨by simp [herror], h.returned⟩
  sublist := by
    rw [answers, herror, delivered_error, segment_add]
    exact h.sublist.trans (List.sublist_append_right _ _)
  all_iff := by
    rw [answers, herror, delivered_error, segment_add, AllUnspoiled, hclean, ← h.all_iff]
    constructor
    · intro heq
      -- what was delivered is no longer than what the later calls passed
      have hlength := h.sublist.length_le
      rw [heq, List.length_append] at hlength
      have hnil : segment pages m k = [] := List.length_eq_zero_iff.mp (by omega)
      exact ⟨hnil, by rw [heq, hnil, List.nil_append]⟩
    · rintro ⟨hnil, heq⟩
      rw [heq, hnil, List.nil_append]
  ended := h.ended_cons fun _ _ _ hok => by simp [herror] at hok

end Passes

theorem passes (h : Chain fetch initial pages) (hat : AtPage initial pages m it)
    {callsOn : List Call}
    (hrounds : ∀ rounds, .collectAll rounds ∈ callsOn → pages.length < rounds) (s : σ) :
    ∃ k, Passes fetch pages m k callsOn it s := by
  induction callsOn generalizing it s m with
  | nil => exact ⟨0, Passes.nil⟩
  | cons callOn callsOn ih =>
    obtain ⟨k, hk, hcall⟩ := h.answer hat
      (fun rounds heq => hrounds rounds (heq ▸ List.mem_cons_self)) s
    obtain ⟨l, hrest⟩ := ih hk (fun rounds hmem => hrounds rounds (List.mem_cons_of_mem _ hmem))
      (it.answer fetch s callOn).2.2
    rcases hcall with ⟨hok, hclean, hend⟩ | ⟨error, herror, hclean⟩
    · exact ⟨k + l, hrest.cons_ok hok hclean hend⟩
    · exact ⟨k + l, hrest.cons_error herror hclean⟩

end Chain

/-- On a chain every call returns, and calls that end in a successful `collect_all`
deliver exactly the items of the chain when no `collect_all` has failed after it had
items. -/
theorem delivers_all_iff (fetch : PaginationParams → σ → Result (PaginatedResponse T) × σ)
    {pages : List (PaginatedResponse T)} (h : Chain fetch initial pages) {callsOn : List Call}
    (hrounds : ∀ rounds, .collectAll rounds ∈ callsOn → pages.length < rounds) (s : σ) :
    (∀ result ∈ answers fetch callsOn (PaginatedIterator.start initial) s, result.isSome) ∧
    ∀ rounds items, callsOn.getLast? = some (.collectAll rounds) →
      (answers fetch callsOn (PaginatedIterator.start initial) s).getLast? =
        some (some (.ok items)) →
      (delivered (answers fetch callsOn (PaginatedIterator.start initial) s) =
          pages.flatMap PaginatedResponse.data ↔
        AllUnspoiled fetch pages.length callsOn (PaginatedIterator.start initial) s) := by
  obtain ⟨k, hpasses⟩ := h.passes h.atPage_start hrounds s
  refine ⟨hpasses.returned, fun rounds items hcalls hok => ?_⟩
  have hend := hpasses.ended rounds items hcalls hok
  rw [← hpasses.all_iff, segment_all (by omega)]

/-- The first `collect_all` fails before it has items, the second call has the first page. -/
theorem delivers_all_iff_flaky :
    delivered (answers flakyFetch [.collectAll 3, .next, .collectAll 3, .collectAll 3]
      (PaginatedIterator.start {}) 0) = [1, 2, 3] := by
  have hrounds : ∀ rounds, .collectAll rounds ∈
      [Call.collectAll 3, .next, .collectAll 3, .collectAll 3] → flakyPages.length < rounds := by
    intro rounds hmem
    obtain rfl : rounds = 3 := by simpa using hmem
    decide
  obtain ⟨-, hall⟩ := delivers_all_iff flakyFetch chain_flaky hrounds 0
  refine (hall 3 [3] rfl rfl).mpr ⟨?_, trivial, ?_, ?_, trivial⟩
  · intro _ items hitems
    exact (Option.some.inj hitems).symm
  · intro _ items hitems
    exact (Option.some.inj hitems).symm
  · intro _ items hitems
    have hdone : none = some items := hitems
    simp at hdone

/-- The second fetch fails: the items of the first page never come. -/
theorem collect_all_loses_page :
    Chain flakyFetch {} flakyPages ∧
      flakyPages.flatMap PaginatedResponse.data = [1, 2, 3] ∧
      answers flakyFetch [.collectAll 3, .collectAll 3] (PaginatedIterator.start {}) 1 =
        [some (.error (Error.network [])), some (.ok [3])] :=
  ⟨chain_flaky, rfl, rfl⟩

end PaginatedIterator

end NwsCpp
