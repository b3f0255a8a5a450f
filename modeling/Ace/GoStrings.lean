import Mathlib.Data.List.Basic
import Mathlib.Data.List.Infix

/-!
# Go strings and slices

`strings.Split` as Go's `genSplit` runs it, and the slice index expression `s[i]`, whose
out-of-range case is a runtime panic rather than a returned error. The handlers index the
results of `strings.Split` without a length check, so both are modelled with their failure
cases. Go strings are byte strings; the separators used here are ASCII, so splitting the
characters of a string cuts it at the same places as splitting its bytes.
-/

namespace Ace

namespace Strings

/-- `genSplit` with a non-empty separator and no limit: cut at the leftmost occurrence of
`sep`, then scan on after it. `skip` counts the separator characters still to pass over and
`seg` is the segment read so far. -/
def splitScan (sep : List Char) : Nat → List Char → List Char → List (List Char)
  | _, seg, [] => [seg]
  | k + 1, seg, _ :: cs => splitScan sep k seg cs
  | 0, seg, c :: cs =>
    if sep.isPrefixOf (c :: cs) then seg :: splitScan sep (sep.length - 1) [] cs
    else splitScan sep 0 (seg ++ [c]) cs

/-- `strings.Split(s, sep)`. Every call site passes a non-empty literal separator. -/
def split (s sep : String) : List String :=
  (splitScan sep.data 0 [] s.data).map String.mk

def index (sub : List Char) : List Char → Option Nat
  | [] => if sub = [] then some 0 else none
  | c :: cs => if sub.isPrefixOf (c :: cs) then some 0 else (index sub cs).map (· + 1)

def lastIndexChar (c : Char) : List Char → Option Nat
  | [] => none
  | d :: ds =>
    match lastIndexChar c ds with
    | some i => some (i + 1)
    | none => if d = c then some 0 else none

theorem lastIndexChar_eq_none {c : Char} {s : List Char} : lastIndexChar c s = none ↔ c ∉ s := by
  induction s with
  | nil => simp [lastIndexChar]
  | cons d ds ih =>
    cases h : lastIndexChar c ds with
    | some i =>
      have hc : c ∈ ds := by_contra fun hc => by simp [ih.2 hc] at h
      simp [lastIndexChar, h, hc]
    | none =>
      have hc := ih.1 h
      by_cases hd : d = c
      · simp [lastIndexChar, h, hd]
      · simp [lastIndexChar, h, hd, hc, Ne.symm hd]

def Occurs (sep s : String) : Prop := sep.data <:+: s.data

instance (sep s : String) : Decidable (Occurs sep s) :=
  inferInstanceAs (Decidable (sep.data <:+: s.data))

theorem splitScan_skip (sep seg xs ys : List Char) :
    splitScan sep xs.length seg (xs ++ ys) = splitScan sep 0 seg ys := by
  induction xs with
  | nil => rfl
  | cons x xs ih => exact ih

theorem splitScan_of_no_match (sep : List Char) (x : List Char) :
    ∀ (seg rest : List Char), (∀ i < x.length, ¬ sep <+: (x ++ rest).drop i) →
      splitScan sep 0 seg (x ++ rest) = splitScan sep 0 (seg ++ x) rest := by
  induction x with
  | nil => intro seg rest _; simp
  | cons c x ih =>
    intro seg rest h
    have h0 : sep.isPrefixOf (c :: (x ++ rest)) = false :=
      Bool.eq_false_iff.2 fun hp => h 0 (by simp) (by simpa using List.isPrefixOf_iff_prefix.1 hp)
    have ht : ∀ i < x.length, ¬ sep <+: (x ++ rest).drop i :=
      fun i hi => h (i + 1) (by simpa using hi)
    show splitScan sep 0 seg (c :: (x ++ rest)) = _
    rw [splitScan, h0, if_neg Bool.false_ne_true, ih (seg ++ [c]) rest ht]
    simp

theorem splitScan_sep (sep seg rest : List Char) (hsep : sep ≠ []) :
    splitScan sep 0 seg (sep ++ rest) = seg :: splitScan sep 0 [] rest := by
  obtain ⟨c, cs, rfl⟩ := List.exists_cons_of_ne_nil hsep
  have hp : (c :: cs).isPrefixOf (c :: (cs ++ rest)) = true := by
    simp [List.isPrefixOf_iff_prefix]
  show splitScan _ 0 seg (c :: (cs ++ rest)) = _
  rw [splitScan, hp, if_pos rfl, List.length_cons, Nat.add_sub_cancel, splitScan_skip]

theorem splitScan_eq_single (sep seg s : List Char) (h : ¬ sep <:+: s) :
    splitScan sep 0 seg s = [seg ++ s] := by
  have hs : ∀ i < s.length, ¬ sep <+: (s ++ []).drop i := fun i _ hp =>
    h (List.infix_iff_prefix_suffix.2 ⟨_, by simpa using hp, List.drop_suffix i s⟩)
  simpa [splitScan] using splitScan_of_no_match sep s seg [] hs

/-- No occurrence of `sep` starts inside `x` when `sep` does not occur in `x` followed by all
but the last character of `sep`. -/
theorem no_match_before_sep {sep x : List Char} (rest : List Char) (hsep : sep ≠ [])
    (hx : ¬ sep <:+: x ++ sep.dropLast) :
    ∀ i < x.length, ¬ sep <+: (x ++ (sep ++ rest)).drop i := by
  intro i hi hp
  rw [List.drop_append_of_le_length hi.le] at hp
  have hlast := List.dropLast_append_getLast hsep
  have hpre : sep <+: x.drop i ++ sep.dropLast := by
    apply List.prefix_of_prefix_length_le hp
    · have hsplit : x.drop i ++ (sep ++ rest) =
          (x.drop i ++ sep.dropLast) ++ ([sep.getLast hsep] ++ rest) := by
        conv_lhs => rw [← hlast]
        simp
      rw [hsplit]
      exact List.prefix_append _ _
    · have := congrArg List.length hlast
      simp only [List.length_append, List.length_drop, List.length_singleton] at this ⊢
      omega
  apply hx
  refine List.infix_iff_prefix_suffix.2 ⟨_, hpre, ?_⟩
  rw [← List.drop_append_of_le_length hi.le]
  exact List.drop_suffix _ _

theorem split_eq_single (s sep : String) (h : ¬ Occurs sep s) : split s sep = [s] := by
  simp [split, splitScan_eq_single _ _ _ h]

theorem split_append_sep (x y sep : String) (hsep : sep.data ≠ [])
    (hx : ¬ sep.data <:+: x.data ++ sep.data.dropLast) :
    split (x ++ sep ++ y) sep = x :: split y sep := by
  simp only [split, String.data_append, List.append_assoc]
  rw [splitScan_of_no_match _ _ _ _ (no_match_before_sep _ hsep hx),
    List.nil_append, splitScan_sep _ _ _ hsep]
  rfl

theorem splitScan_ne_nil (sep : List Char) (s : List Char) :
    ∀ k seg, splitScan sep k seg s ≠ [] := by
  induction s with
  | nil => intro k seg; cases k <;> simp [splitScan]
  | cons c cs ih =>
    intro k seg
    cases k with
    | zero =>
      unfold splitScan
      split
      · simp
      · exact ih 0 _
    | succ k => exact ih k seg

theorem two_le_length_splitScan (sep : List Char) (hsep : sep ≠ []) (s : List Char) :
    ∀ seg, sep <:+: s → 2 ≤ (splitScan sep 0 seg s).length := by
  induction s with
  | nil => intro seg h; exact absurd (List.eq_nil_of_infix_nil h) hsep
  | cons c cs ih =>
    intro seg h
    unfold splitScan
    split
    · have := splitScan_ne_nil sep cs (sep.length - 1) []
      cases hl : splitScan sep (sep.length - 1) [] cs
      · exact absurd hl this
      · simp
    · next hp =>
      have hnp : ¬ sep <+: c :: cs := fun h' => hp (List.isPrefixOf_iff_prefix.2 h')
      exact ih _ ((List.infix_cons_iff.1 h).resolve_left hnp)

theorem two_le_length_split {s sep : String} (hsep : sep.data ≠ []) (h : Occurs sep s) :
    2 ≤ (split s sep).length := by
  simpa [split] using two_le_length_splitScan _ hsep _ [] h

/-- With a one-character separator Go's scan is Batteries' `List.splitOn`. -/
theorem splitScan_single (c : Char) (s : List Char) :
    ∀ seg, splitScan [c] 0 seg s = (s.splitOn c).modifyHead (seg ++ ·) := by
  induction s with
  | nil => intro seg; simp [splitScan, List.splitOn, List.splitOnP, List.splitOnP.go]
  | cons d s ih =>
    intro seg
    have hcons : (d :: s).splitOn c =
        if d = c then [] :: s.splitOn c else (s.splitOn c).modifyHead (d :: ·) := by
      simp [List.splitOn, List.splitOnP_cons]
    by_cases hd : d = c
    · subst hd
      have hp : ([d] : List Char).isPrefixOf (d :: s) = true := by simp [List.isPrefixOf]
      rw [splitScan, hp, if_pos rfl, List.length_singleton, Nat.sub_self, hcons, if_pos rfl, ih]
      cases s.splitOn d <;> simp
    · have hcd : ([c] : List Char).isPrefixOf (d :: s) = false := by
        simp [List.isPrefixOf, Ne.symm hd]
      rw [splitScan, hcd, if_neg Bool.false_ne_true, ih, hcons, if_neg hd,
        List.modifyHead_modifyHead]
      congr 1
      funext t
      simp

theorem split_single (s : String) (c : Char) :
    split s (String.singleton c) = (s.data.splitOn c).map String.mk := by
  show (splitScan [c] 0 [] s.data).map String.mk = _
  rw [splitScan_single]
  cases s.data.splitOn c <;> simp

theorem not_mem_of_mem_splitOn {c : Char} {l x : List Char} (h : x ∈ l.splitOn c) : c ∉ x := by
  induction l generalizing x with
  | nil => simp_all [List.splitOn]
  | cons d ds ih =>
    simp only [List.splitOn, List.splitOnP_cons] at h
    split at h
    · rcases List.mem_cons.1 h with rfl | h
      · simp
      · exact ih h
    · next hd =>
      obtain ⟨y, ys, hys⟩ := List.exists_cons_of_ne_nil (List.splitOnP_ne_nil (· == c) ds)
      rw [hys, List.modifyHead_cons] at h
      rcases List.mem_cons.1 h with rfl | h
      · have hy := @ih y (by simp [List.splitOn, hys])
        simp only [beq_iff_eq] at hd
        simp [hy, Ne.symm hd]
      · exact ih (by simp [List.splitOn, hys, h])

/-- Splitting `p`, a one-character separator and `f`, neither of which holds it, gives the
two pieces. -/
theorem split_pair {p f : String} {c : Char} (hp : c ∉ p.data) (hf : c ∉ f.data) :
    split (p ++ String.singleton c ++ f) (String.singleton c) = [p, f] := by
  have hc : c ∈ (String.singleton c).data := by simp [String.singleton]
  rw [split_append_sep _ _ _ (List.ne_nil_of_mem hc)
    (fun h => hp (by simpa [String.singleton] using h.subset hc)),
    split_eq_single _ _ fun h => hf (h.subset hc)]

theorem split_eq_pair {s p f : String} {c : Char} (h : split s (String.singleton c) = [p, f]) :
    s = p ++ String.singleton c ++ f ∧ c ∉ p.data ∧ c ∉ f.data := by
  have hxy : s.data.splitOn c = [p.data, f.data] := by
    simpa [split_single, Function.comp_def] using congrArg (List.map String.data) h
  have hs : [c].intercalate (s.data.splitOn c) = s.data := List.intercalate_splitOn s.data c
  rw [hxy] at hs
  refine ⟨String.ext ?_, not_mem_of_mem_splitOn (l := s.data) (by simp [hxy]),
    not_mem_of_mem_splitOn (l := s.data) (by simp [hxy])⟩
  simpa [List.intercalate] using hs.symm

end Strings

namespace Go

theorem map_eq_ok {ε α β : Type} {f : α → β} {e : Except ε α} {b : β} (h : f <$> e = .ok b) :
    ∃ a, e = .ok a ∧ f a = b := by
  cases e with
  | error _ => cases h
  | ok a => exact ⟨a, rfl, by cases h; rfl⟩

theorem bind_eq_ok {ε α β : Type} {x : Except ε α} {f : α → Except ε β} {b : β} :
    x >>= f = .ok b ↔ ∃ a, x = .ok a ∧ f a = .ok b := by
  cases x with
  | error _ => simp [bind, Except.bind]
  | ok a => simp [bind, Except.bind]

@[simp] theorem ok_bind {ε α β : Type} (a : α) (f : α → Except ε β) :
    (Except.ok a >>= f) = f a := rfl

@[simp] theorem error_bind {ε α β : Type} (e : ε) (f : α → Except ε β) :
    (Except.error e >>= f) = .error e := rfl

@[simp] theorem mapError_ok {ε ε' α : Type} (a : α) (g : ε → ε') :
    (Except.ok a : Except ε α).mapError g = .ok a := rfl

theorem mapError_eq_ok {ε ε' α : Type} {x : Except ε α} {g : ε → ε'} {a : α} :
    x.mapError g = .ok a ↔ x = .ok a := by
  cases x <;> simp [Except.mapError]

theorem bind_errors {ε α β : Type} {P : ε → Prop} {x : Except ε α} {f : α → Except ε β}
    (hx : ∀ e, x = .error e → P e) (hf : ∀ a e, f a = .error e → P e) :
    ∀ e, x >>= f = .error e → P e := by
  intro e h
  cases x with
  | error e' => cases h; exact hx e rfl
  | ok a => exact hf a e h

theorem mapError_errors {ε ε' α : Type} {P : ε' → Prop} {x : Except ε α} {g : ε → ε'}
    (hg : ∀ e, P (g e)) : ∀ e', x.mapError g = .error e' → P e' := by
  intro e' h
  cases x with
  | error e => cases h; exact hg e
  | ok a => cases h

/-- The text of Go's `%q` verb, for strings without quotes, backslashes or non-printable
characters, which is all the messages below quote. -/
def quote (s : String) : String := "\"" ++ s ++ "\""

/-- The slice index expression `xs[i]`: the element, or the text of the runtime panic that
an index out of range raises. -/
def index {α : Type} (xs : List α) (i : Int) : Except String α :=
  if h : 0 ≤ i ∧ i < xs.length then .ok (xs.get ⟨i.toNat, by omega⟩)
  else if i < 0 then .error ("runtime error: index out of range [" ++ toString i ++ "]")
  else .error ("runtime error: index out of range [" ++ toString i ++ "] with length " ++
    toString xs.length)

theorem index_ok {α : Type} {xs : List α} {i : Int} {a : α} (h : index xs i = .ok a) :
    ∃ n : Nat, (n : Int) = i ∧ xs[n]? = some a := by
  unfold index at h
  split at h
  · next hi =>
    refine ⟨i.toNat, Int.toNat_of_nonneg hi.1, ?_⟩
    cases h
    simp [List.getElem?_eq_getElem (by omega : i.toNat < xs.length)]
  · split at h <;> cases h

theorem index_natCast {α : Type} (xs : List α) (n : Nat) (h : n < xs.length) :
    index xs n = .ok xs[n] := by
  rw [index, dif_pos ⟨Int.ofNat_nonneg n, by omega⟩]
  rfl

end Go

end Ace
