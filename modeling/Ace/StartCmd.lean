import Ace.GoStrings

/-!
# Request tokens of the start commands

The CSH's start command (`getRequestTokens`) and the other service's (`getVCRequestTokens`) read
their bearer tokens as a list of `name=value` entries. The loop splits each entry at `=`: an
entry of exactly two pieces sets the token for its name, a later entry for the same name
replacing an earlier one, and any other entry is skipped with a warning. Entries written from
names and values free of `=` are read back as the last value given for each name, and an entry
that holds `=` other than once, such as a value with base64 padding, leaves the map as it was.
-/

namespace Ace.StartCmd

open Strings

/-- `tokens[name] = value` on a `map[string]string`, observed through its lookups. -/
def assign (tokens : String → Option String) (name value : String) : String → Option String :=
  fun k => if k = name then some value else tokens k

def readEntry (tokens : String → Option String) (token : String) : String → Option String :=
  match split token "=" with
  | [name, value] => assign tokens name value
  | _ => tokens

/-- The loop of `getRequestTokens` and `getVCRequestTokens`, from an empty map. -/
def requestTokenMap (requestTokens : List String) : String → Option String :=
  requestTokens.foldl readEntry fun _ => none

/-- `getRequestTokens`, on the entries `GetUserSetOptionalVarFromArrayString` read. -/
def getRequestTokens (requestTokens : List String) : String → Option String :=
  requestTokenMap requestTokens

/-- `getVCRequestTokens`, on what `GetUserSetVarFromArrayString` returned; its error is returned
as it is. -/
def getVCRequestTokens (requestTokens : Except String (List String)) :
    Except String (String → Option String) :=
  requestTokenMap <$> requestTokens

theorem requestTokenMap_append_singleton (requestTokens : List String) (token : String) :
    requestTokenMap (requestTokens ++ [token]) = readEntry (requestTokenMap requestTokens) token :=
  List.foldl_append _ _ _ _

theorem readEntry_pair (tokens : String → Option String) {name value : String}
    (hn : '=' ∉ name.data) (hv : '=' ∉ value.data) :
    readEntry tokens (name ++ "=" ++ value) = assign tokens name value := by
  rw [readEntry, show split (name ++ "=" ++ value) "=" = [name, value] from split_pair hn hv]

/-- A turn of the loop either reads an entry `name=value` whose name and value are free of `=`,
or leaves the map as it was. -/
theorem readEntry_cases (tokens : String → Option String) (token : String) :
    (∃ name value, token = name ++ "=" ++ value ∧ '=' ∉ name.data ∧ '=' ∉ value.data ∧
      readEntry tokens token = assign tokens name value) ∨ readEntry tokens token = tokens := by
  unfold readEntry
  split
  · next name value hs =>
    obtain ⟨rfl, hn, hv⟩ := split_eq_pair (c := '=') hs
    exact .inl ⟨name, value, rfl, hn, hv, rfl⟩
  · exact .inr rfl

theorem readEntry_skip (tokens : String → Option String) {token : String}
    (h : token.data.count '=' ≠ 1) : readEntry tokens token = tokens := by
  rcases readEntry_cases tokens token with ⟨name, value, rfl, hn, hv, -⟩ | he
  · simp [List.count_eq_zero_of_not_mem hn, List.count_eq_zero_of_not_mem hv] at h
  · exact he

/-- Entries written as `name=value` from names and values free of `=` are read back as the last
value given for each name. -/
theorem requestTokenMap_render (pairs : List (String × String))
    (hpairs : ∀ p ∈ pairs, '=' ∉ p.1.data ∧ '=' ∉ p.2.data) (name : String) :
    requestTokenMap (pairs.map fun p => p.1 ++ "=" ++ p.2) name = pairs.reverse.lookup name := by
  induction pairs using List.reverseRecOn with
  | nil => rfl
  | append_singleton rest p ih =>
    have hp := hpairs p (List.mem_append_right _ (List.mem_singleton_self p))
    rw [List.map_append, List.map_singleton, requestTokenMap_append_singleton,
      readEntry_pair _ hp.1 hp.2, List.reverse_append, List.reverse_singleton,
      List.singleton_append, List.lookup_cons]
    by_cases hk : name = p.1
    · subst hk
      simp [assign]
    · simp [assign, hk, beq_eq_false_iff_ne.2 hk,
        ih fun q hq => hpairs q (List.mem_append_left _ hq)]

theorem requestTokenMap_render_last_wins :
    requestTokenMap ([("vault", "t1"), ("kms", "t2"), ("vault", "t3")].map
      fun p => p.1 ++ "=" ++ p.2) "vault" = some "t3" :=
  (requestTokenMap_render _ (by decide) "vault").trans rfl

/-- An entry that holds `=` other than once, wherever it stands, leaves the map as it was. -/
theorem requestTokenMap_skips (before after : List String) {token : String}
    (h : token.data.count '=' ≠ 1) :
    requestTokenMap (before ++ token :: after) = requestTokenMap (before ++ after) := by
  simp only [requestTokenMap, List.foldl_append, List.foldl_cons, readEntry_skip _ h]

theorem requestTokenMap_skips_padded :
    requestTokenMap (["vault=t1"] ++ "kms=YWJj==" :: ["edv=t2"]) =
      requestTokenMap (["vault=t1"] ++ ["edv=t2"]) :=
  requestTokenMap_skips _ _ (by decide)

/-- No name and no value the loop stores holds `=`. -/
theorem requestTokenMap_no_sep (requestTokens : List String) {name value : String}
    (h : requestTokenMap requestTokens name = some value) :
    '=' ∉ name.data ∧ '=' ∉ value.data := by
  induction requestTokens using List.reverseRecOn with
  | nil => cases h
  | append_singleton rest token ih =>
    rw [requestTokenMap_append_singleton] at h
    rcases readEntry_cases (requestTokenMap rest) token with ⟨k, v, -, hk, hv, hr⟩ | hr <;>
      rw [hr] at h
    · unfold assign at h
      split_ifs at h with he
      · cases h
        exact ⟨he ▸ hk, hv⟩
      · exact ih h
    · exact ih h

theorem requestTokenMap_no_sep_vault :
    requestTokenMap ["vault=t1"] "vault" = some "t1" ∧ '=' ∉ "vault".data ∧ '=' ∉ "t1".data :=
  have h : requestTokenMap ["vault=t1"] "vault" = some "t1" := by decide
  ⟨h, requestTokenMap_no_sep ["vault=t1"] h⟩

end Ace.StartCmd
