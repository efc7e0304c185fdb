import NwsCpp.Bytes

/-! The `remove_dot_segments` procedure on URL paths, and what it does to the
list of segments of a path. -/

namespace UrlPath

open Bytes

/-- The output buffer without its last segment and the slash before it. -/
def dropLastSegment (out : Text) : Text := (out.rdropWhile (· != 47)).dropLast

/-- The input and output buffers, one rule a step; the fuel bounds the input. -/
def removeDotSegmentsFrom : Nat → Text → Text → Text
  | 0, _, out => out
  | fuel + 1, input, out =>
    if input.isEmpty then out
    else if (ascii "../").isPrefixOf input then removeDotSegmentsFrom fuel (input.drop 3) out
    else if (ascii "./").isPrefixOf input then removeDotSegmentsFrom fuel (input.drop 2) out
    else if (ascii "/./").isPrefixOf input then removeDotSegmentsFrom fuel (input.drop 2) out
    else if input == ascii "/." then removeDotSegmentsFrom fuel (ascii "/") out
    else if (ascii "/../").isPrefixOf input then
      removeDotSegmentsFrom fuel (input.drop 3) (dropLastSegment out)
    else if input == ascii "/.." then
      removeDotSegmentsFrom fuel (ascii "/") (dropLastSegment out)
    else if input == ascii "." || input == ascii ".." then removeDotSegmentsFrom fuel [] out
    else
      removeDotSegmentsFrom fuel (input.tail.dropWhile (· != 47))
        (out ++ input.take 1 ++ input.tail.takeWhile (· != 47))

def removeDotSegments (path : Text) : Text := removeDotSegmentsFrom path.length path []

def render (segs : List Text) : Text := segs.flatMap (47 :: ·)

def segments (path : Text) : List Text := path.tail.splitOn 47

def IsDots (s : Text) : Prop := s = [46] ∨ s = [46, 46]

/-- The effect on segments: a final dot segment leaves an empty one. -/
def normalizeFrom (out : List Text) : List Text → List Text
  | [] => out
  | s :: rest =>
    if s = [46] then
      if rest.isEmpty then out ++ [[]] else normalizeFrom out rest
    else if s = [46, 46] then
      if rest.isEmpty then out.dropLast ++ [[]] else normalizeFrom out.dropLast rest
    else normalizeFrom (out ++ [s]) rest

def normalize (segs : List Text) : List Text := normalizeFrom [] segs

@[simp] theorem render_nil : render [] = [] := rfl

theorem render_cons (s : Text) (segs : List Text) : render (s :: segs) = 47 :: s ++ render segs := rfl

theorem render_append (segs more : List Text) :
    render (segs ++ more) = render segs ++ render more := List.flatMap_append

theorem segments_render {segs : List Text} (hne : segs ≠ []) (h : ∀ s ∈ segs, (47 : Byte) ∉ s) :
    segments (render segs) = segs := by
  induction segs with
  | nil => exact absurd rfl hne
  | cons s segs ih =>
    have hs := h s (by simp)
    cases segs with
    | nil => simp [segments, render, List.splitOn_eq_singleton hs]
    | cons t segs =>
      have hrest := ih (by simp) fun u hu => h u (List.mem_cons_of_mem s hu)
      have htail : (render (s :: t :: segs)).tail = s ++ 47 :: (render (t :: segs)).tail := by
        simp [render_cons]
      rw [segments, htail, List.splitOn_append_cons_self_of_not_mem hs]
      exact congrArg (s :: ·) hrest

theorem mem_segments_render {segs : List Text} (h : ∀ s ∈ segs, (47 : Byte) ∉ s) {s : Text}
    (hs : s ∈ segments (render segs)) : s = [] ∨ s ∈ segs := by
  by_cases hne : segs = []
  · subst hne
    exact Or.inl (by simpa [segments] using hs)
  · rw [segments_render hne h] at hs
    exact Or.inr hs

theorem rdropWhile_slash {s : Text} (hs : (47 : Byte) ∉ s) (t : Text) :
    (t ++ 47 :: s).rdropWhile (· != 47) = t ++ [47] := by
  induction s using List.reverseRecOn with
  | nil => rw [List.rdropWhile_concat_neg _ _ _ (by simp)]
  | append_singleton s c ih =>
    have hc : c ≠ 47 := fun he => hs (by simp [he])
    have hassoc : t ++ 47 :: (s ++ [c]) = (t ++ 47 :: s) ++ [c] := by simp
    rw [hassoc, List.rdropWhile_concat_pos _ _ _ (by simpa using hc)]
    exact ih fun hm => hs (by simp [hm])

theorem dropLastSegment_render {out : List Text} (h : ∀ s ∈ out, (47 : Byte) ∉ s) :
    dropLastSegment (render out) = render out.dropLast := by
  cases out using List.reverseRecOn with
  | nil => rfl
  | append_singleton out s =>
    have hlast : render [s] = 47 :: s := by simp [render_cons]
    rw [dropLastSegment, render_append, hlast, rdropWhile_slash (h s (by simp)),
      List.dropLast_concat, List.dropLast_concat]

theorem isPrefixOf_segment {w s : Text} (hw : (47 : Byte) ∉ w) (hs : (47 : Byte) ∉ s)
    (rest : List Text) :
    (w ++ [47]).isPrefixOf (s ++ render rest) = true ↔ s = w ∧ rest ≠ [] := by
  induction w generalizing s with
  | nil =>
    cases s with
    | nil => cases rest <;> simp [render_cons]
    | cons c s => simp_all
  | cons a w ih =>
    have hw' : (47 : Byte) ∉ w := fun hm => hw (List.mem_cons_of_mem a hm)
    cases s with
    | nil =>
      have ha : a ≠ 47 := fun he => hw (by simp [he])
      cases rest <;> simp [render_cons, ha]
    | cons c s =>
      have hs' : (47 : Byte) ∉ s := fun hm => hs (List.mem_cons_of_mem c hm)
      simp only [List.cons_append, List.isPrefixOf_cons_cons, Bool.and_eq_true, beq_iff_eq, ih hw' hs',
        List.cons.injEq, eq_comm (a := a), and_assoc]

theorem segment_eq {w s : Text} (hw : (47 : Byte) ∉ w) (rest : List Text) :
    s ++ render rest = w ↔ s = w ∧ rest = [] := by
  cases rest with
  | nil => simp
  | cons t rest =>
    refine ⟨fun he => absurd ?_ hw, fun h => by simp at h⟩
    rw [← he]
    simp [render_cons]

theorem split_segment {s : Text} (hs : (47 : Byte) ∉ s) (rest : List Text) :
    (s ++ render rest).takeWhile (· != 47) = s ∧
      (s ++ render rest).dropWhile (· != 47) = render rest := by
  apply takeWhile_ne_append hs
  cases rest <;> simp [render_cons, eq_comm]

theorem removeDotSegmentsFrom_slash (fuel : Nat) (hfuel : fuel ≠ 0) (out : Text) :
    removeDotSegmentsFrom fuel [47] out = out ++ [47] := by
  cases fuel with
  | zero => exact absurd rfl hfuel
  | succ fuel => cases fuel <;> simp [removeDotSegmentsFrom, ascii]

theorem removeDotSegmentsFrom_segment {s : Text} (hs : (47 : Byte) ∉ s) (rest : List Text)
    (fuel : Nat) (out : Text) :
    removeDotSegmentsFrom (fuel + 1) (render (s :: rest)) out =
      if s = [46] then
        if rest = [] then removeDotSegmentsFrom fuel [47] out
        else removeDotSegmentsFrom fuel (render rest) out
      else if s = [46, 46] then
        if rest = [] then removeDotSegmentsFrom fuel [47] (dropLastSegment out)
        else removeDotSegmentsFrom fuel (render rest) (dropLastSegment out)
      else removeDotSegmentsFrom fuel (render rest) (out ++ 47 :: s) := by
  have hdot : (ascii "/./").isPrefixOf (render (s :: rest)) = true ↔ s = [46] ∧ rest ≠ [] :=
    isPrefixOf_segment (w := [46]) (by decide) hs rest
  have hdots : (ascii "/../").isPrefixOf (render (s :: rest)) = true ↔ s = [46, 46] ∧ rest ≠ [] :=
    isPrefixOf_segment (w := [46, 46]) (by decide) hs rest
  have hone : (render (s :: rest) == ascii "/.") = true ↔ s = [46] ∧ rest = [] := by
    rw [beq_iff_eq, ← segment_eq (by decide) rest]
    exact List.cons_inj_right 47
  have htwo : (render (s :: rest) == ascii "/..") = true ↔ s = [46, 46] ∧ rest = [] := by
    rw [beq_iff_eq, ← segment_eq (by decide) rest]
    exact List.cons_inj_right 47
  have hempty : (render (s :: rest)).isEmpty = false := rfl
  have hup : (ascii "../").isPrefixOf (render (s :: rest)) = false := rfl
  have hhere : (ascii "./").isPrefixOf (render (s :: rest)) = false := rfl
  have hbare : (render (s :: rest) == ascii "." || render (s :: rest) == ascii "..") = false := rfl
  rw [removeDotSegmentsFrom, hempty, hup, hhere, hbare]
  simp only [hdot, hdots, hone, htwo, Bool.false_eq_true, if_false]
  by_cases h1 : s = [46]
  · subst h1
    by_cases hr : rest = [] <;> simp [hr, render_cons, ascii]
  · by_cases h2 : s = [46, 46]
    · subst h2
      by_cases hr : rest = [] <;> simp [hr, render_cons, ascii]
    · simp [h1, h2, split_segment hs, render_cons]

/-- What the buffers hold at every step: rendered segments, the output those
that `normalizeFrom` has settled. -/
theorem removeDotSegmentsFrom_render {segs : List Text} (h : ∀ s ∈ segs, (47 : Byte) ∉ s)
    {out : List Text} (hout : ∀ s ∈ out, (47 : Byte) ∉ s) {fuel : Nat}
    (hfuel : (render segs).length ≤ fuel) :
    removeDotSegmentsFrom fuel (render segs) (render out) = render (normalizeFrom out segs) := by
  induction segs generalizing out fuel with
  | nil => cases fuel <;> simp [removeDotSegmentsFrom, normalizeFrom]
  | cons s rest ih =>
    have hs := h s (by simp)
    have hlen : (render (s :: rest)).length = s.length + (render rest).length + 1 := by
      simp only [render_cons, List.cons_append, List.length_cons, List.length_append]
    obtain ⟨fuel, rfl⟩ : ∃ k, fuel = k + 1 := ⟨fuel - 1, by omega⟩
    have hdrop : ∀ t ∈ out.dropLast, (47 : Byte) ∉ t := fun t ht =>
      hout t (List.mem_of_mem_dropLast ht)
    have hslash : ∀ t : List Text, render (t ++ [[]]) = render t ++ [47] := fun t => by
      simp [render_append, render_cons]
    have hrest : ∀ t : List Text, (∀ u ∈ t, (47 : Byte) ∉ u) →
        removeDotSegmentsFrom fuel (render rest) (render t) = render (normalizeFrom t rest) :=
      fun t ht => ih (fun u hu => h u (List.mem_cons_of_mem s hu)) ht (by omega)
    have hpos : IsDots s → fuel ≠ 0 := by
      rintro (rfl | rfl) <;> simp only [List.length_cons] at hlen <;> omega
    rw [removeDotSegmentsFrom_segment hs, normalizeFrom, dropLastSegment_render hout]
    simp only [List.isEmpty_iff]
    split_ifs with h1 hr h2 hr
    · rw [removeDotSegmentsFrom_slash _ (hpos (Or.inl h1)), hslash]
    · exact hrest out hout
    · rw [removeDotSegmentsFrom_slash _ (hpos (Or.inr h2)), hslash]
    · exact hrest _ hdrop
    · have hsnoc : render out ++ 47 :: s = render (out ++ [s]) := by
        simp [render_append, render_cons]
      rw [hsnoc]
      apply hrest
      intro t ht
      rcases List.mem_append.mp ht with ht | ht
      · exact hout t ht
      · exact List.mem_singleton.mp ht ▸ hs

theorem removeDotSegments_render {segs : List Text} (h : ∀ s ∈ segs, (47 : Byte) ∉ s) :
    removeDotSegments (render segs) = render (normalize segs) := by
  have hnil : ∀ s ∈ ([] : List Text), (47 : Byte) ∉ s := by simp
  exact removeDotSegmentsFrom_render h hnil le_rfl

theorem mem_normalizeFrom {segs out : List Text} {s : Text} (h : s ∈ normalizeFrom out segs) :
    s ∈ out ∨ s = [] ∨ (s ∈ segs ∧ ¬ IsDots s) := by
  induction segs generalizing out with
  | nil => exact Or.inl h
  | cons t rest ih =>
    have hmore : ∀ {more : List Text}, s ∈ normalizeFrom more rest →
        s ∈ more ∨ s = [] ∨ (s ∈ t :: rest ∧ ¬ IsDots s) := fun hm =>
      (ih hm).imp_right (Or.imp_right (And.imp_left (List.mem_cons_of_mem t)))
    rw [normalizeFrom] at h
    split_ifs at h with h1 hr h2 hr
    · simpa using Or.imp_right Or.inl (List.mem_append.mp h)
    · exact hmore h
    · rcases List.mem_append.mp h with hm | hm
      · exact Or.inl (List.mem_of_mem_dropLast hm)
      · exact Or.inr (Or.inl (List.mem_singleton.mp hm))
    · exact (hmore h).imp_left List.mem_of_mem_dropLast
    · rcases hmore h with hm | hm
      · rcases List.mem_append.mp hm with hm | hm
        · exact Or.inl hm
        · obtain rfl := List.mem_singleton.mp hm
          exact Or.inr (Or.inr ⟨by simp, fun hd => hd.elim h1 h2⟩)
      · exact Or.inr hm

theorem mem_normalize {segs : List Text} {s : Text} (h : s ∈ normalize segs) :
    s = [] ∨ (s ∈ segs ∧ ¬ IsDots s) := by
  simpa using mem_normalizeFrom h

theorem normalizeFrom_eq_append {segs : List Text} (h : ∀ s ∈ segs, ¬ IsDots s)
    (out : List Text) : normalizeFrom out segs = out ++ segs := by
  induction segs generalizing out with
  | nil => simp [normalizeFrom]
  | cons s rest ih =>
    have hs := h s (by simp)
    rw [normalizeFrom, if_neg fun he => hs (Or.inl he), if_neg fun he => hs (Or.inr he),
      ih fun t ht => h t (List.mem_cons_of_mem s ht), List.append_assoc, List.singleton_append]

theorem normalize_eq_self {segs : List Text} (h : ∀ s ∈ segs, ¬ IsDots s) :
    normalize segs = segs := normalizeFrom_eq_append h []

end UrlPath
