import Ace.GoStrings

/-!
# `url.Parse`

Go 1.18's `net/url.Parse`, kept to what the handlers read of its result, the scheme and the
host, and to every way it can fail. The fragment is cut first, the text before it goes through
`parse(rawURL, false)`, and the fragment is then checked on its own. Each `%XX` escape of the
host decodes to the character with that code.
-/

namespace Ace.NetUrl

open Strings Go

structure URL where
  scheme : String
  host : String
  deriving DecidableEq, Repr

inductive Encoding where
  | path
  | userPassword
  | host
  | zone
  | fragment
  deriving DecidableEq, Repr

def containsCTL (s : List Char) : Bool := s.any fun c => c.toNat < 0x20 || c.toNat == 0x7f

def isHex (c : Char) : Bool :=
  c.isDigit || ('a' ≤ c && c ≤ 'f') || ('A' ≤ c && c ≤ 'F')

def unhex (c : Char) : Nat :=
  if c.isDigit then c.toNat - '0'.toNat
  else if 'a' ≤ c && c ≤ 'f' then c.toNat - 'a'.toNat + 10
  else if 'A' ≤ c && c ≤ 'F' then c.toNat - 'A'.toNat + 10
  else 0

/-- `!shouldEscape(c, encodeHost)` on an ASCII character: unreserved characters, the
sub-delimiters, and the `:` `[` `]` `<` `>` `"` that a host with a port or an IPv6 literal
may hold. Code 39 is the apostrophe. -/
def hostChar (c : Char) : Bool :=
  c.isAlphanum || "!$&()*+,;=:[]<>-_.~\"".data.contains c || c.toNat == 39

def escapeError (s : List Char) : String := "invalid URL escape " ++ quote (String.mk s)

def invalidHostError (c : Char) : String :=
  "invalid character " ++ quote (String.singleton c) ++ " in host name"

/-- `unescape(s, mode)`: every `%` starts two hex digits; in host mode an escape stands for a
non-ASCII byte or is `%25`; in zone mode it may not stand for an ASCII character a host
forbids; in both, every unescaped ASCII character is one a host allows. -/
def unescape (mode : Encoding) : List Char → Except String (List Char)
  | [] => .ok []
  | '%' :: rest =>
    match rest with
    | a :: b :: rest' =>
      if !(isHex a && isHex b) then .error (escapeError ['%', a, b])
      else if mode = .host && unhex a < 8 && !(a == '2' && b == '5') then
        .error (escapeError ['%', a, b])
      else if mode = .zone && !(a == '2' && b == '5') && unhex a * 16 + unhex b != 32 &&
          !(unhex a < 8 && hostChar (Char.ofNat (unhex a * 16 + unhex b))) then
        .error (escapeError ['%', a, b])
      else (Char.ofNat (unhex a * 16 + unhex b) :: ·) <$> unescape mode rest'
    | _ => .error (escapeError ('%' :: rest))
  | c :: rest =>
    if (mode = .host || mode = .zone) && c.toNat < 0x80 && !hostChar c then
      .error (invalidHostError c)
    else (c :: ·) <$> unescape mode rest

def validOptionalPort : List Char → Bool
  | [] => true
  | c :: ds => c == ':' && ds.all Char.isDigit

def validUserinfo (s : List Char) : Bool :=
  s.all fun c => c.isAlphanum || "-._:~!$&()*+,;=%@".data.contains c || c.toNat == 39

def invalidPortError (colonPort : List Char) : String :=
  "invalid port " ++ quote (String.mk colonPort) ++ " after host"

/-- `parseHost`: an IP literal in brackets, with an optional port and zone, or a name with
an optional port; either way the host is unescaped in host mode. -/
def parseHost (host : List Char) : Except String (List Char) :=
  if host.head? = some '[' then
    match lastIndexChar ']' host with
    | none => .error "missing ']' in host"
    | some i =>
      if !validOptionalPort (host.drop (i + 1)) then .error (invalidPortError (host.drop (i + 1)))
      else
        match Strings.index "%25".data (host.take i) with
        | some z => do
          let h1 ← unescape .host (host.take z)
          let h2 ← unescape .zone ((host.take i).drop z)
          let h3 ← unescape .host (host.drop i)
          pure (h1 ++ h2 ++ h3)
        | none => unescape .host host
  else
    match lastIndexChar ':' host with
    | some i =>
      if !validOptionalPort (host.drop i) then .error (invalidPortError (host.drop i))
      else unescape .host host
    | none => unescape .host host

/-- `parseAuthority`, returning the host: the userinfo before the last `@` is checked and
unescaped, the username and the password each on its own. -/
def parseAuthority (authority : List Char) : Except String (List Char) :=
  match lastIndexChar '@' authority with
  | none => parseHost authority
  | some i => do
    let host ← parseHost (authority.drop (i + 1))
    let userinfo := authority.take i
    if !validUserinfo userinfo then .error "net/url: invalid userinfo"
    else
      let _ ← unescape .userPassword (userinfo.takeWhile (· ≠ ':'))
      if userinfo.contains ':' then
        let _ ← unescape .userPassword ((userinfo.dropWhile (· ≠ ':')).drop 1)
        pure host
      else pure host

/-- `getScheme`: a leading letter, then letters, digits, `+`, `-` or `.`, up to a colon. -/
def getSchemeAux (raw : List Char) : List Char → List Char → Except String (List Char × List Char)
  | _, [] => .ok ([], raw)
  | acc, c :: cs =>
    if c.isAlpha || c.isDigit || c == '+' || c == '-' || c == '.' then getSchemeAux raw (acc ++ [c]) cs
    else if c == ':' then .ok (acc, cs)
    else .ok ([], raw)

def getScheme (raw : List Char) : Except String (List Char × List Char) :=
  match raw with
  | [] => .ok ([], [])
  | c :: cs =>
    if c.isAlpha then getSchemeAux raw [c] cs
    else if c == ':' then .error "missing protocol scheme"
    else .ok ([], raw)

def takesAuthority (scheme rest : List Char) : Bool :=
  (scheme != [] || !"///".data.isPrefixOf rest) && "//".data.isPrefixOf rest

/-- `parse(rawURL, false)` on the text before the fragment. The query is cut at the first
`?`, which is what both branches of the `ForceQuery` test leave of the rest. A rootless
rest after a scheme is opaque and has no host; otherwise the path is unescaped only for its
errors. -/
def parseRef (raw : List Char) : Except String URL :=
  if containsCTL raw then .error "net/url: invalid control character in URL"
  else if raw = ['*'] then .ok ⟨"", ""⟩
  else
    match getScheme raw with
    | .error e => .error e
    | .ok (scheme₀, rest₀) =>
      let scheme := scheme₀.map Char.toLower
      let rest := rest₀.takeWhile (· ≠ '?')
      if rest.head? ≠ some '/' ∧ scheme ≠ [] then .ok ⟨String.mk scheme, ""⟩
      else if rest.head? ≠ some '/' ∧ ':' ∈ rest.takeWhile (· ≠ '/') then
        .error "first path segment in URL cannot contain colon"
      else if takesAuthority scheme rest then
        match parseAuthority ((rest.drop 2).takeWhile (· ≠ '/')) with
        | .error e => .error e
        | .ok host =>
          (fun _ => ⟨String.mk scheme, String.mk host⟩) <$>
            unescape .path ((rest.drop 2).dropWhile (· ≠ '/'))
      else (fun _ => ⟨String.mk scheme, ""⟩) <$> unescape .path rest

def parse (rawURL : String) : Except String URL :=
  let u := rawURL.data.takeWhile (· ≠ '#')
  let frag := (rawURL.data.dropWhile (· ≠ '#')).drop 1
  match parseRef u with
  | .error e => .error ("parse " ++ quote (String.mk u) ++ ": " ++ e)
  | .ok url =>
    if frag = [] then .ok url
    else
      match unescape .fragment frag with
      | .error e => .error ("parse " ++ quote rawURL ++ ": " ++ e)
      | .ok _ => .ok url

/-! ## URLs with a scheme and an authority -/

def lower (s : String) : String := ⟨s.data.map Char.toLower⟩

def schemeChar (c : Char) : Bool := c.isAlpha || c.isDigit || c == '+' || c == '-' || c == '.'

/-- A scheme as `getScheme` reads one: a letter, then letters, digits, `+`, `-` or `.`. -/
def ValidScheme (s : String) : Prop :=
  ∃ c cs, s.data = c :: cs ∧ c.isAlpha = true ∧ ∀ d ∈ cs, schemeChar d = true

/-- A character of an RFC 3986 registered name, escapes aside. Code 39 is the apostrophe. -/
def regNameChar (c : Char) : Bool :=
  c.isAlphanum || "-._~!$&()*+,;=".data.contains c || c.toNat == 39

/-- A host as a URI's authority carries one after any userinfo: a registered name, or an IP
literal in brackets (RFC 3986's `IPv6address` or `IPvFuture`, whose characters are those of a
registered name and `:`), then an optional `:port`. -/
def HostPort (h : String) : Prop :=
  ∃ port, validOptionalPort port = true ∧
    ((∃ name, h.data = name ++ port ∧ ∀ c ∈ name, regNameChar c = true) ∨
      ∃ lit, h.data = '[' :: lit ++ ']' :: port ∧ ∀ c ∈ lit, regNameChar c = true ∨ c = ':')

theorem regNameChar_spec {c : Char} (h : regNameChar c = true) :
    hostChar c = true ∧ c ∉ ['%', '#', '?', '/', '@', '[', ':'] := by
  have listed : ∀ d ∈ "-._~!$&()*+,;=".data,
      hostChar d = true ∧ d ∉ ['%', '#', '?', '/', '@', '[', ':'] := by decide
  have excluded : ∀ d ∈ ['%', '#', '?', '/', '@', '[', ':'], d.isAlphanum = false ∧ d.toNat ≠ 39 := by
    decide
  simp only [regNameChar, Bool.or_eq_true, List.elem_iff, beq_iff_eq] at h
  rcases h with (ha | hl) | h39
  · exact ⟨by rw [hostChar, ha]; rfl, fun hm => by simp [(excluded c hm).1] at ha⟩
  · exact listed c (by simpa [List.contains] using hl)
  · exact ⟨by simp only [hostChar, h39, beq_self_eq_true, Bool.or_true],
      fun hm => (excluded c hm).2 h39⟩

theorem validOptionalPort_chars {port : List Char} (hp : validOptionalPort port = true) :
    ∀ c ∈ port, c = ':' ∨ c.isDigit = true := by
  obtain _ | ⟨d, ds⟩ := port
  · simp
  · simp only [validOptionalPort, Bool.and_eq_true, beq_iff_eq, List.all_eq_true] at hp
    obtain ⟨rfl, hds⟩ := hp
    rintro c (_ | ⟨_, hc⟩)
    exacts [.inl rfl, .inr (hds c hc)]

theorem unescape_host_of_hostChar (s : List Char)
    (h : ∀ c ∈ s, hostChar c = true ∧ c ≠ '%') : unescape .host s = .ok s := by
  induction s with
  | nil => rfl
  | cons c cs ih =>
    obtain ⟨hc, hp⟩ := h c (List.mem_cons_self c cs)
    rw [unescape.eq_4 _ _ _ hp, ih fun d hd => h d (List.mem_cons_of_mem c hd)]
    simp [hc]

theorem lastIndexChar_append_cons {c : Char} {y : List Char} (x : List Char) (hy : c ∉ y) :
    lastIndexChar c (x ++ c :: y) = some x.length := by
  induction x with
  | nil => simp [lastIndexChar, lastIndexChar_eq_none.2 hy]
  | cons d ds ih => simp [lastIndexChar, ih]

theorem index_eq_none_of_not_mem {c : Char} {rest s : List Char} (h : c ∉ s) :
    Strings.index (c :: rest) s = none := by
  induction s with
  | nil => rfl
  | cons d ds ih =>
    have hd : c ≠ d := fun he => h (he ▸ List.mem_cons_self d ds)
    simp [Strings.index, List.isPrefixOf, hd, ih fun hm => h (List.mem_cons_of_mem d hm)]

theorem hostPort_chars {H : String} (hH : HostPort H) :
    ∀ c ∈ H.data, hostChar c = true ∧ c ∉ ['%', '#', '?', '/', '@'] := by
  have name_ok : ∀ c, regNameChar c = true → hostChar c = true ∧ c ∉ ['%', '#', '?', '/', '@'] :=
    fun c h => ⟨(regNameChar_spec h).1,
      fun hm => (regNameChar_spec h).2 (List.mem_append_left ['[', ':'] hm)⟩
  have port_ok : ∀ c, c = ':' ∨ c.isDigit = true →
      hostChar c = true ∧ c ∉ ['%', '#', '?', '/', '@'] := by
    have notDigit : ∀ d ∈ ['%', '#', '?', '/', '@'], d.isDigit = false := by decide
    rintro c (rfl | hdig)
    · decide
    · exact ⟨by simp only [hostChar, Char.isAlphanum, hdig, Bool.or_true, Bool.true_or],
        fun hm => by simp [notDigit c hm] at hdig⟩
  obtain ⟨port, hp, ⟨name, hd, hn⟩ | ⟨lit, hd, hl⟩⟩ := hH <;> intro c hc <;> rw [hd] at hc
  · rcases List.mem_append.1 hc with hc | hc
    · exact name_ok c (hn c hc)
    · exact port_ok c (validOptionalPort_chars hp c hc)
  · simp only [List.mem_cons, List.mem_append, or_assoc] at hc
    rcases hc with rfl | hc | rfl | hc
    · decide
    · exact (hl c hc).elim (name_ok c) fun h => port_ok c (.inl h)
    · decide
    · exact port_ok c (validOptionalPort_chars hp c hc)

theorem not_mem_hostPort {H : String} (hH : HostPort H) {d : Char}
    (hd : d ∈ ['%', '#', '?', '/', '@']) : d ∉ H.data :=
  fun h => (hostPort_chars hH d h).2 hd

theorem hostPort_all_ne {H : String} (hH : HostPort H) {d : Char}
    (hd : d ∈ ['%', '#', '?', '/', '@']) : ∀ c ∈ H.data, decide (c ≠ d) = true :=
  fun _ hc => decide_eq_true fun he => not_mem_hostPort hH hd (he ▸ hc)

/-- The registered-name branch of `parseHost`: the port after the last `:`. -/
theorem parseHost_name {name port : List Char} (hn : ∀ c ∈ name, regNameChar c = true)
    (hp : validOptionalPort port = true)
    (hun : unescape .host (name ++ port) = .ok (name ++ port)) :
    parseHost (name ++ port) = .ok (name ++ port) := by
  have hhead : (name ++ port).head? ≠ some '[' := fun h => by
    rcases List.mem_append.1 (List.mem_of_mem_head? h) with hm | hm
    · exact (regNameChar_spec (hn '[' hm)).2 (by decide)
    · rcases validOptionalPort_chars hp '[' hm with h | h <;> cases h
  have hcolon : ':' ∉ name := fun hm => (regNameChar_spec (hn ':' hm)).2 (by simp)
  rw [parseHost, if_neg hhead]
  obtain _ | ⟨d, ds⟩ := port
  · rw [List.append_nil] at hun ⊢
    rw [lastIndexChar_eq_none.2 hcolon]
    exact hun
  · obtain ⟨rfl, hds⟩ : d = ':' ∧ ∀ c ∈ ds, c.isDigit = true := by
      simpa [validOptionalPort] using hp
    rw [lastIndexChar_append_cons name fun hm => by simpa using hds ':' hm]
    dsimp only
    rw [List.drop_left, hun]
    simpa [validOptionalPort] using hds

/-- The IP-literal branch of `parseHost`: the port after the last `]`, and no zone. -/
theorem parseHost_literal {lit port : List Char} (hp : validOptionalPort port = true)
    (hpct : '%' ∉ lit)
    (hun : unescape .host ('[' :: lit ++ ']' :: port) = .ok ('[' :: lit ++ ']' :: port)) :
    parseHost ('[' :: lit ++ ']' :: port) = .ok ('[' :: lit ++ ']' :: port) := by
  have hlast : lastIndexChar ']' ('[' :: lit ++ ']' :: port) = some (lit.length + 1) :=
    lastIndexChar_append_cons ('[' :: lit) fun hm => by
      rcases validOptionalPort_chars hp _ hm with h | h <;> cases h
  have hdrop : ('[' :: lit ++ ']' :: port).drop (lit.length + 1 + 1) = port := by
    show List.drop (lit.length + 1) (lit ++ ']' :: port) = port
    rw [List.drop_append]
    rfl
  have hzone : Strings.index "%25".data (('[' :: lit ++ ']' :: port).take (lit.length + 1)) =
      none := by
    simpa using @index_eq_none_of_not_mem '%' ['2', '5'] _ (List.not_mem_cons_of_ne_of_not_mem
      (by decide) hpct)
  have hhead : ('[' :: lit ++ ']' :: port).head? = some '[' := rfl
  rw [parseHost, if_pos hhead, hlast]
  dsimp only
  rw [hdrop, hp, hzone]
  exact hun

/-- `parseHost` reads a host with a port as written, by whichever branch its first character
selects. -/
theorem parseHost_hostPort {H : String} (hH : HostPort H) : parseHost H.data = .ok H.data := by
  have hchars := hostPort_chars hH
  have hun : unescape .host H.data = .ok H.data :=
    unescape_host_of_hostChar _ fun c hc =>
      ⟨(hchars c hc).1, fun h => (hchars c hc).2 (by simp [h])⟩
  have hpct : '%' ∉ H.data := not_mem_hostPort hH (by decide)
  obtain ⟨port, hp, ⟨name, hd, hn⟩ | ⟨lit, hd, -⟩⟩ := hH <;> rw [hd] at hun hpct ⊢
  · exact parseHost_name hn hp hun
  · exact parseHost_literal hp (fun hm => hpct (by simp [hm])) hun

theorem parseAuthority_hostPort {H : String} (hH : HostPort H) :
    parseAuthority H.data = .ok H.data := by
  rw [parseAuthority, lastIndexChar_eq_none.2 (not_mem_hostPort hH (by decide))]
  exact parseHost_hostPort hH

theorem getSchemeAux_scheme (raw acc cs r : List Char) (hcs : ∀ d ∈ cs, schemeChar d = true) :
    getSchemeAux raw acc (cs ++ ':' :: r) = .ok (acc ++ cs, r) := by
  induction cs generalizing acc with
  | nil => simp [getSchemeAux]
  | cons d ds ih =>
    have hd : (d.isAlpha || d.isDigit || d == '+' || d == '-' || d == '.') = true :=
      hcs d (List.mem_cons_self d ds)
    rw [List.cons_append, getSchemeAux, if_pos hd, ih _ fun e he => hcs e (List.mem_cons_of_mem d he)]
    simp

theorem getScheme_scheme {S : String} (hS : ValidScheme S) (r : List Char) :
    getScheme (S.data ++ ':' :: r) = .ok (S.data, r) := by
  obtain ⟨c, cs, hd, hc, hcs⟩ := hS
  rw [hd, List.cons_append, getScheme, if_pos hc, getSchemeAux_scheme _ _ _ _ hcs]
  rfl

theorem validScheme_chars {S : String} (hS : ValidScheme S) : ∀ c ∈ S.data, c ≠ '#' := by
  obtain ⟨c, cs, hd, hc, hcs⟩ := hS
  rw [hd]
  rintro d hd rfl
  rcases List.mem_cons.1 hd with h | h
  · rw [← h] at hc; simp at hc
  · simpa [schemeChar] using hcs '#' h

theorem validScheme_no_percent {S : String} (hS : ValidScheme S) : '%' ∉ S.data := by
  obtain ⟨c, cs, hd, hc, hcs⟩ := hS
  rw [hd]
  rintro (_ | ⟨_, h⟩)
  · simp at hc
  · simpa [schemeChar] using hcs '%' h

theorem unescape_of_no_percent (s : List Char) (h : '%' ∉ s) (mode : Encoding)
    (hmode : mode ≠ .host ∧ mode ≠ .zone) : unescape mode s = .ok s := by
  induction s with
  | nil => rfl
  | cons c cs ih =>
    have hc : c ≠ '%' := fun he => h (he ▸ List.mem_cons_self c cs)
    rw [unescape.eq_4 _ _ _ hc, ih fun hm => h (List.mem_cons_of_mem c hm)]
    simp [hmode.1, hmode.2]

/-- On a scheme, `://`, a host with an optional port and a path, `parseRef` reads the scheme
in lower case and the host as written, and unescapes the path up to the query for its
errors. -/
theorem parseRef_authority_eq {S H : String} {p : List Char} (hS : ValidScheme S)
    (hH : HostPort H) (hp : p = [] ∨ p.head? = some '/')
    (hctl : containsCTL (S.data ++ ':' :: '/' :: '/' :: (H.data ++ p)) = false) :
    parseRef (S.data ++ ':' :: '/' :: '/' :: (H.data ++ p)) =
      (fun _ => ⟨lower S, H⟩) <$> unescape .path (p.takeWhile (· ≠ '?')) := by
  have hq := hostPort_all_ne hH (d := '?') (by decide)
  have hsl := hostPort_all_ne hH (d := '/') (by decide)
  have hp' : (p.takeWhile (· ≠ '?')).takeWhile (· ≠ '/') = [] ∧
      (p.takeWhile (· ≠ '?')).dropWhile (· ≠ '/') = p.takeWhile (· ≠ '?') := by
    rcases hp with rfl | hp
    · exact ⟨rfl, rfl⟩
    · obtain ⟨ds, rfl⟩ := List.head?_eq_some_iff.1 hp
      exact ⟨rfl, rfl⟩
  have hne : (S.data.map Char.toLower) ≠ [] := by
    obtain ⟨c, cs, hd, -⟩ := hS
    simp [hd]
  have hstar : S.data ++ ':' :: '/' :: '/' :: (H.data ++ p) ≠ ['*'] := fun he => by
    have := congrArg List.length he
    simp at this
    omega
  have htake : takesAuthority (S.data.map Char.toLower)
      ('/' :: '/' :: (H.data ++ p.takeWhile (· ≠ '?'))) = true := by
    simp [takesAuthority, hne, List.isPrefixOf]
  rw [parseRef, if_neg (by simp [hctl]), if_neg hstar, getScheme_scheme hS]
  dsimp only
  rw [List.takeWhile_cons_of_pos (by decide), List.takeWhile_cons_of_pos (by decide),
    List.takeWhile_append_of_pos hq, if_neg (by simp), if_neg (by simp), if_pos htake]
  simp only [List.drop_succ_cons, List.drop_zero, List.takeWhile_append_of_pos hsl, hp'.1,
    List.append_nil, parseAuthority_hostPort hH, List.dropWhile_append_of_pos hsl, hp'.2]
  rfl

theorem takeWhile_not_hash {S H p : String} (hS : ValidScheme S) (hH : HostPort H) :
    (S ++ "://" ++ H ++ p).data.takeWhile (· ≠ '#') =
      S.data ++ ':' :: '/' :: '/' :: (H.data ++ p.data.takeWhile (· ≠ '#')) := by
  have hS' : ∀ c ∈ S.data, (fun c => decide (c ≠ '#')) c = true :=
    fun c hc => by simpa using validScheme_chars hS c hc
  simp only [String.data_append, List.append_assoc]
  rw [List.takeWhile_append_of_pos hS']
  show S.data ++ List.takeWhile _ (':' :: '/' :: '/' :: (H.data ++ p.data)) = _
  rw [List.takeWhile_cons_of_pos (by decide), List.takeWhile_cons_of_pos (by decide),
    List.takeWhile_cons_of_pos (by decide), List.takeWhile_append_of_pos (hostPort_all_ne hH (d := '#') (by decide))]

theorem takeWhile_not_hash_path {p : List Char} (hp : p = [] ∨ p.head? = some '/') :
    p.takeWhile (· ≠ '#') = [] ∨ (p.takeWhile (· ≠ '#')).head? = some '/' := by
  rcases hp with rfl | hp
  · exact .inl rfl
  · obtain ⟨ds, rfl⟩ := List.head?_eq_some_iff.1 hp
    exact .inr rfl

/-- On such a URL whose path holds no `%` and which holds no control character, `url.Parse`
succeeds. -/
theorem parse_authority_ok {S H p : String} (hS : ValidScheme S) (hH : HostPort H)
    (hp : p.data = [] ∨ p.data.head? = some '/') (hpct : '%' ∉ p.data)
    (hctl : containsCTL (S ++ "://" ++ H ++ p).data = false) :
    parse (S ++ "://" ++ H ++ p) = .ok ⟨lower S, H⟩ := by
  have hnone : '%' ∉ (S ++ "://" ++ H ++ p).data := by
    simp only [String.data_append, List.mem_append, not_or]
    exact ⟨⟨⟨validScheme_no_percent hS, by decide⟩, not_mem_hostPort hH (by decide)⟩,
      hpct⟩
  have hctl' : containsCTL (S.data ++ ':' :: '/' :: '/' :: (H.data ++ p.data.takeWhile (· ≠ '#'))) =
      false := by
    rw [← takeWhile_not_hash hS hH]
    simp only [containsCTL, List.any_eq_false] at hctl ⊢
    exact fun c hc => hctl c ((List.takeWhile_sublist _).subset hc)
  have hpath : unescape .path ((p.data.takeWhile (· ≠ '#')).takeWhile (· ≠ '?')) = .ok _ :=
    unescape_of_no_percent _ (fun h => hpct ((List.takeWhile_sublist _).subset
      ((List.takeWhile_sublist _).subset h))) _ (by decide)
  unfold parse
  dsimp only
  rw [takeWhile_not_hash hS hH, parseRef_authority_eq hS hH (takeWhile_not_hash_path hp) hctl',
    hpath]
  dsimp only [Functor.map, Except.map]
  split
  · rfl
  · rw [unescape_of_no_percent _ (fun h => hnone (((List.drop_sublist _ _).trans
      (List.dropWhile_sublist _)).subset h)) _ (by decide)]

end Ace.NetUrl
