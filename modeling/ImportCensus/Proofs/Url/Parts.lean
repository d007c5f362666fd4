/-
ImportCensus/Proofs/Url/Parts.lean

The parts of a URL of the web in its text.

In the text of such a URL the authority ends at the next slash, question mark or hash sign, the fragment
starts at the first hash sign, and the query at the first question mark before it (`partsOf`).  A text that is
put together from parts is taken apart into them, if no part has a sign that would end it (`IsProper`).  When a
URL is read, such signs are escaped in its user, path and query, and no host has them.

Main statements: proper parts are found again in their text (`Parts.IsProper.partsOf_text`), and a URL from
which something can be fetched is put together from such parts (`isWeb_of_read`).
-/
import ImportCensus.Proofs.Text.Split
import ImportCensus.Proofs.Url.Reader

namespace ImportCensus

open Text

namespace Url

variable {s rest : List Char} {u : Url}

/-- The parts of the text of a URL of the web. -/
structure Parts where
  scheme : List Char
  /-- What stands between the slashes behind the scheme and the path: user, host and port. -/
  authority : List Char
  path : List Char
  query : Option (List Char)
  fragment : Option (List Char)
  deriving DecidableEq

/-- A text, taken apart at its signs. -/
def partsOf (s : List Char) : Parts :=
  let scheme := s.takeWhile (· != ':')
  let behind := s.drop (scheme.length + 3)
  let authority := behind.takeWhile (!endsAuthority false ·)
  let rest := behind.drop authority.length
  let body := rest.takeWhile (· != '#')
  let path := body.takeWhile (· != '?')
  ⟨scheme, authority, path, (body.drop path.length).tail?, (rest.drop body.length).tail?⟩

namespace Parts

variable {p : Parts}

/-- The text of parts. -/
def text (p : Parts) : List Char :=
  p.scheme ++ ':' :: '/' :: '/' :: p.authority ++ p.path ++ partText '?' p.query ++ partText '#' p.fragment

/-- Does each part end where the next one starts? -/
structure IsProper (p : Parts) : Prop where
  scheme : ∀ c ∈ p.scheme, c ≠ ':' ∧ endsAuthority false c = false
  authority : ∀ c ∈ p.authority, endsAuthority false c = false
  path_head : p.path.head? = some '/'
  path : '?' ∉ p.path ∧ '#' ∉ p.path
  query : ∀ q, p.query = some q → '#' ∉ q

/-- A text without a sign, and the part behind the sign. -/
theorem takeWhile_partText {sign : Char} (hs : sign ∉ s) (part : Option (List Char)) :
    (s ++ partText sign part).takeWhile (· != sign) = s := by
  have hall : ∀ c ∈ s, (c != sign) = true := by
    intro c hc
    rw [bne_iff_ne]
    rintro rfl
    exact hs hc
  rw [List.takeWhile_append_of_pos hall]
  cases part <;> simp [partText]

theorem tail?_partText (sign : Char) (part : Option (List Char)) : (partText sign part).tail? = part := by
  cases part <;> rfl

/-- **A text of proper parts is taken apart into them.** -/
theorem IsProper.partsOf_text (h : p.IsProper) : partsOf p.text = p := by
  obtain ⟨scheme, authority, path, query, fragment⟩ := p
  obtain ⟨hscheme, hauthority, hhead, ⟨hpath, hpath'⟩, hquery⟩ := h
  have hschemeTaken : (text ⟨scheme, authority, path, query, fragment⟩).takeWhile (· != ':') = scheme := by
    have htext : text ⟨scheme, authority, path, query, fragment⟩ = scheme ++ partText ':'
        (some ('/' :: '/' :: authority ++ path ++ partText '?' query ++ partText '#' fragment)) := by
      simp [text, partText]
    rw [htext]
    exact takeWhile_partText (fun hmem => (hscheme _ hmem).1 rfl) _
  have hbehind : (text ⟨scheme, authority, path, query, fragment⟩).drop (scheme.length + 3)
      = authority ++ (path ++ partText '?' query ++ partText '#' fragment) := by
    rw [text, ← List.drop_drop]
    simp
  have hauthorityTaken : (authority ++ (path ++ partText '?' query ++ partText '#' fragment)).takeWhile
      (!endsAuthority false ·) = authority := by
    obtain ⟨rest, rfl⟩ : ∃ rest, path = '/' :: rest := List.head?_eq_some_iff.1 hhead
    rw [List.takeWhile_append_of_pos fun c hc => by simp [hauthority c hc]]
    simp [endsAuthority]
  have hbody : '#' ∉ path ++ partText '?' query := by
    cases hq : query with
    | none => simpa [partText] using hpath'
    | some q => simp [partText, hpath', hquery q hq]
  simp only [partsOf, hschemeTaken, hbehind, hauthorityTaken, List.drop_left, takeWhile_partText hbody,
    takeWhile_partText hpath, tail?_partText]

/-- A text of proper parts has a question mark or a hash sign just if there is a query or a fragment. -/
theorem IsProper.signs_notMem_iff (h : p.IsProper) :
    '?' ∉ p.text ∧ '#' ∉ p.text ↔ p.query = none ∧ p.fragment = none := by
  obtain ⟨scheme, authority, path, query, fragment⟩ := p
  constructor
  · rintro ⟨hquery, hfragment⟩
    constructor
    · cases query with
      | none => rfl
      | some query => exact absurd (by simp [text, partText]) hquery
    · cases fragment with
      | none => rfl
      | some fragment => exact absurd (by simp [text, partText]) hfragment
  · rintro ⟨rfl, rfl⟩
    have hscheme := fun c hc => ne_of_not_endsAuthority (h.scheme c hc).2
    have hauthority := fun c hc => ne_of_not_endsAuthority (h.authority c hc)
    simp only [text, partText, Option.elim_none, List.append_nil, List.mem_append, List.mem_cons, not_or]
    exact ⟨⟨⟨fun hc => (hscheme _ hc).1 rfl, by decide, by decide, by decide, fun hc => (hauthority _ hc).1 rfl⟩,
      h.path.1⟩, ⟨fun hc => (hscheme _ hc).2 rfl, by decide, by decide, by decide, fun hc => (hauthority _ hc).2 rfl⟩,
      h.path.2⟩

end Parts

/-! ### What is escaped -/

/-- The characters of escapes. -/
def escapeChars : List Char :=
  '%' :: "0123456789ABCDEF".toList

theorem capitalHexDigit_mem {n : Nat} (h : n < 16) : capitalHexDigit n ∈ "0123456789ABCDEF".toList := by
  have hall : ∀ m ∈ List.range 16, capitalHexDigit m ∈ "0123456789ABCDEF".toList := by decide
  exact hall n (List.mem_range.2 h)

/-- A character of the set is not left, unless it stands in an escape. -/
theorem notMem_escape {set : List Char} {c : Char} (hset : c ∈ set) (hc : c ∉ escapeChars) :
    c ∉ escape set s := by
  rw [escape, List.mem_flatMap]
  rintro ⟨d, -, hd⟩
  rw [escapeChar] at hd
  split at hd
  · next hplain =>
    rw [List.mem_singleton] at hd
    subst hd
    simp [isPlain, hset] at hplain
  · obtain ⟨b, -, hb⟩ := List.mem_flatMap.1 hd
    refine hc ?_
    have hbyte := b.toNat_lt
    have hhigh := capitalHexDigit_mem (n := b.toNat / 16) (by omega)
    have hlow := capitalHexDigit_mem (n := b.toNat % 16) (by omega)
    rw [escapeByte, List.mem_cons, List.mem_cons, List.mem_singleton] at hb
    rcases hb with rfl | rfl | rfl
    · exact List.mem_cons_self
    · exact List.mem_cons_of_mem _ hhigh
    · exact List.mem_cons_of_mem _ hlow

/-! ### What stands in an authority -/

theorem endsAuthority_false_iff {c : Char} : endsAuthority false c = false ↔ c ∉ ['/', '?', '#'] := by
  simp [endsAuthority, and_assoc]

theorem not_endsAuthority_escape {c : Char} (hc : c ∈ escape userSet s) :
    endsAuthority false c = false := by
  rw [endsAuthority_false_iff]
  intro hsign
  have hset : ∀ c ∈ ['/', '?', '#'], c ∈ userSet ∧ c ∉ escapeChars := by
    simp [userSet, pathSet, fragmentSet, escapeChars]
  exact notMem_escape (hset c hsign).1 (hset c hsign).2 hc

/-- The digits to a base are those of the numbers below it. -/
theorem exists_digitChar_of_mem {base n : Nat} {c : Char} (hbase : 1 < base) (hc : c ∈ Nat.toDigits base n) :
    ∃ k < base, c = Nat.digitChar k := by
  induction n using Nat.strongRecOn with
  | ind n ih =>
    by_cases hn : n < base
    · rw [Nat.toDigits_of_lt_base hn, List.mem_singleton] at hc
      exact ⟨n, hn, hc⟩
    · rw [Nat.toDigits_of_base_le hbase (Nat.le_of_not_lt hn), List.mem_append, List.mem_singleton] at hc
      rcases hc with hc | hc
      · exact ih (n / base) (Nat.div_lt_self (by omega) hbase) hc
      · exact ⟨n % base, Nat.mod_lt n (by omega), hc⟩

theorem not_endsAuthority_toDigits {base n : Nat} {c : Char} (hbase : 1 < base) (hsmall : base ≤ 16)
    (hc : c ∈ Nat.toDigits base n) : endsAuthority false c = false := by
  obtain ⟨k, hk, rfl⟩ := exists_digitChar_of_mem hbase hc
  have hall : ∀ k ∈ List.range 16, endsAuthority false (Nat.digitChar k) = false := by decide
  exact hall k (List.mem_range.2 (by omega))

theorem not_endsAuthority_writeGroups {groups : List Nat} {c : Char} (hc : c ∈ writeGroups groups) :
    endsAuthority false c = false := by
  rcases mem_of_mem_join hc with rfl | ⟨digits, hdigits, hc⟩
  · rfl
  · obtain ⟨n, -, rfl⟩ := List.mem_map.1 hdigits
    exact not_endsAuthority_toDigits (by decide) (by decide) hc

theorem not_isForbidden_of_asciiDomain? {name domain : List Char} (h : asciiDomain? name = some domain) :
    domain.any isForbidden = false := by
  simp only [asciiDomain?, Option.bind_eq_bind, Option.bind_eq_some_iff] at h
  obtain ⟨plain, -, labels, -, h⟩ := h
  split at h
  · cases h
  · next hfits =>
    cases h
    simp only [Bool.or_eq_true, not_or, Bool.not_eq_true] at hfits
    exact hfits.1

/-- Is a host one that has a text without the signs that would end it? -/
structure Host.IsClosed (host : Host) : Prop where
  ne_nil : host.toText ≠ []
  signs : ∀ c ∈ host.toText, endsAuthority false c = false

theorem Host.isClosed_address4 (bits : Nat) : (Host.address4 bits).IsClosed where
  ne_nil := by simp [Host.toText, join]
  signs c hc := by
    rcases mem_of_mem_join hc with rfl | ⟨digits, hdigits, hc⟩
    · rfl
    · obtain ⟨n, -, rfl⟩ := List.mem_map.1 hdigits
      exact not_endsAuthority_toDigits (by decide) (by decide) hc

theorem Host.isClosed_address6 (groups : List Nat) : (Host.address6 groups).IsClosed where
  ne_nil := by simp [Host.toText]
  signs c hc := by
    simp only [Host.toText, List.mem_append, List.mem_cons, List.not_mem_nil, or_false] at hc
    rcases hc with (rfl | hc) | rfl
    · rfl
    · split at hc
      · exact not_endsAuthority_writeGroups hc
      · rcases List.mem_append.1 hc with hc | hc
        · exact not_endsAuthority_writeGroups hc
        · rcases List.mem_cons.1 hc with rfl | hc
          · rfl
          · rcases List.mem_cons.1 hc with rfl | hc
            · rfl
            · exact not_endsAuthority_writeGroups hc
    · rfl

/-- A host that was read has none of the signs. -/
theorem isClosed_of_readHost {host : Host} (h : readHost s = .ok host) : host.IsClosed := by
  unfold readHost at h
  split at h
  · unfold readAddress6 at h
    split at h
    · split at h
      · cases h
        exact Host.isClosed_address6 _
      · cases h
    · cases h
  · split at h
    · cases h
    · cases h
    · next domain hne hdomain =>
      split at h
      · unfold readAddress4 at h
        split at h
        · cases h
          exact Host.isClosed_address4 _
        · cases h
      · cases h
        refine ⟨hne, fun c hc => ?_⟩
        have hforbidden : isForbidden c = false := by
          simpa using List.any_eq_false.1 (not_isForbidden_of_asciiDomain? hdomain) c hc
        have hsigns : ∀ c ∈ ['/', '?', '#'], isForbidden c = true := by
          simp [isForbidden, separators]
        rw [endsAuthority_false_iff]
        intro hsign
        rw [hsigns c hsign] at hforbidden
        cases hforbidden

/-! ### What stands in a path -/

/-- The segments that are followed have no character that the given ones do not have. -/
theorem forall_mem_follow {P : Char → Prop} {reached segments : List (List Char)}
    (hreached : ∀ segment ∈ reached, ∀ c ∈ segment, P c) (hsegments : ∀ segment ∈ segments, ∀ c ∈ segment, P c) :
    ∀ segment ∈ follow false reached segments, ∀ c ∈ segment, P c := by
  induction segments generalizing reached with
  | nil => exact hreached
  | cons segment more ih =>
    obtain ⟨hsegment, hmore⟩ := List.forall_mem_cons.1 hsegments
    have hleave : ∀ segment ∈ leave false reached, ∀ c ∈ segment, P c := by
      intro s hs
      unfold leave at hs
      split at hs
      · cases hs
      · exact hreached s (List.mem_of_mem_tail hs)
    -- a last segment of dots leaves an empty one behind
    have hempty : ∀ {reached : List (List Char)}, (∀ segment ∈ reached, ∀ c ∈ segment, P c) →
        ∀ segment ∈ (if more.isEmpty then [] :: reached else reached), ∀ c ∈ segment, P c := by
      intro reached hreached
      split
      · exact List.forall_mem_cons.2 ⟨nofun, hreached⟩
      · exact hreached
    rw [follow]
    split
    · exact ih (hempty hleave) hmore
    · split
      · exact ih (hempty hreached) hmore
      · refine ih (List.forall_mem_cons.2 ⟨?_, hreached⟩) hmore
        simpa [settle] using hsegment

/-- The path of a URL of the web starts with a slash, and its question marks and hash signs are escaped. -/
theorem readWholePath_web {scheme : List Char} (hfile : isFileScheme scheme = false)
    (hknown : isKnownScheme scheme = true) (s : List Char) :
    (readWholePath scheme s).head? = some '/' ∧ '?' ∉ readWholePath scheme s ∧ '#' ∉ readWholePath scheme s := by
  have hpath : ∀ s, ∀ c ∈ ['?', '#'], c ∉ readPath scheme s := by
    intro s c hc hmem
    have hsign : ∀ c ∈ ['?', '#'], c ∈ pathSet ∧ c ∉ escapeChars ∧ c ≠ '/' := by
      simp [pathSet, fragmentSet, escapeChars]
    obtain ⟨hset, hescape, hslash⟩ := hsign c hc
    simp only [readPath, hfile, Bool.false_eq_true, if_false] at hmem
    rcases List.mem_cons.1 hmem with heq | hmem
    · exact hslash heq
    · rcases mem_of_mem_join hmem with heq | ⟨segment, hsegment, hc⟩
      · exact hslash heq
      · have hnothing : ∀ segment ∈ ([] : List (List Char)), ∀ d ∈ segment, d ≠ c := nofun
        refine forall_mem_follow hnothing ?_ segment (List.mem_reverse.1 hsegment) c hc rfl
        rintro _ hescaped d hd rfl
        obtain ⟨raw, -, rfl⟩ := List.mem_map.1 hescaped
        exact notMem_escape hset hescape hd
  have hwhole : ∀ s, (readPath scheme s).head? = some '/' ∧ '?' ∉ readPath scheme s ∧ '#' ∉ readPath scheme s :=
    fun s => ⟨rfl, hpath s _ (by decide), hpath s _ (by decide)⟩
  unfold readWholePath
  split
  · rw [if_pos hknown]
    decide
  · split <;> exact hwhole _

/-! ### What is read of a URL of the web -/

/-- Something is fetched by schemes of the web only, and these are words without signs. -/
theorem kind_of_isFetchable {scheme : List Char} (h : isFetchable scheme = true) :
    isFileScheme scheme = false ∧ isKnownScheme scheme = true ∧
      ∀ c ∈ scheme, c ≠ ':' ∧ endsAuthority false c = false := by
  rw [isFetchable, Bool.or_eq_true, beq_iff_eq, beq_iff_eq] at h
  rcases h with rfl | rfl
  all_goals exact ⟨by decide, by decide, by simp [endsAuthority]⟩

theorem exists_of_readUser {web : Bool} {userName password : List Char}
    (h : readUser web s = .ok (userName, password, rest)) :
    ∃ user pass, userName = escape userSet user ∧ password = escape userSet pass := by
  unfold readUser at h
  dsimp only at h
  split at h
  · cases h
    exact ⟨[], [], rfl, rfl⟩
  · split at h
    · cases h
    · cases h
      exact ⟨_, _, rfl, rfl⟩

theorem exists_of_readAuthority {scheme : List Char} (h : readAuthority scheme s = .ok u) :
    ∃ user pass host port rest, (isKnownScheme scheme = true → Host.IsClosed host) ∧
      u = finish ⟨scheme, escape userSet user, escape userSet pass, some host, port, [], none, none⟩
        (readWholePath scheme) rest := by
  unfold readAuthority at h
  obtain ⟨⟨userName, password, behind⟩, huser, h⟩ := exists_of_bind_ok h
  obtain ⟨user, pass, rfl, rfl⟩ := exists_of_readUser huser
  dsimp only at h
  generalize (splitHost (isKnownScheme scheme) false behind).1 = hostText at h
  generalize (splitHost (isKnownScheme scheme) false behind).2 = behindHost at h
  split at h
  · cases h
  · split at h
    all_goals
      obtain ⟨host, hhost, h⟩ := exists_of_bind_ok h
      have hclosed : isKnownScheme scheme = true → Host.IsClosed host := by
        intro hknown
        first
          | contradiction
          | exact isClosed_of_readHost hhost
      split at h
      · cases h
      · split at h
        · obtain ⟨⟨port, rest⟩, -, h⟩ := exists_of_bind_ok h
          cases h
          exact ⟨user, pass, host, port, rest, hclosed, rfl⟩
        · cases h
          exact ⟨user, pass, host, none, _, hclosed, rfl⟩

theorem scheme_of_readFile {scheme : List Char} (h : readFile scheme s = .ok u) : u.scheme = scheme := by
  unfold readFile at h
  dsimp only at h
  split at h
  · split at h
    · cases h
      rfl
    · obtain ⟨host, -, h⟩ := exists_of_bind_ok h
      cases h
      rfl
  · cases h
    rfl

/-- A URL from which something can be fetched has a host. -/
theorem exists_of_readBehindScheme {scheme : List Char} (h : readBehindScheme scheme s = .ok u)
    (hfetch : isFetchable u.scheme = true) :
    ∃ user pass host port rest, Host.IsClosed host ∧
      u = finish ⟨scheme, escape userSet user, escape userSet pass, some host, port, [], none, none⟩
        (readWholePath scheme) rest := by
  unfold readBehindScheme at h
  split at h
  · next hfile =>
    rw [scheme_of_readFile h] at hfetch
    rw [(kind_of_isFetchable hfetch).1] at hfile
    cases hfile
  · split at h
    · next hknown =>
      obtain ⟨user, pass, host, port, rest, hclosed, rfl⟩ := exists_of_readAuthority h
      exact ⟨user, pass, host, port, rest, hclosed hknown, rfl⟩
    · next hknown =>
      have hscheme : u.scheme = scheme := by
        split at h
        · obtain ⟨user, pass, host, port, rest, -, rfl⟩ := exists_of_readAuthority h
          rfl
        · cases h
          rfl
        · cases h
          rfl
      rw [hscheme] at hfetch
      exact absurd (kind_of_isFetchable hfetch).2.1 hknown

/-! ### The parts of a URL -/

/-- The parts of a URL that has a host. -/
def parts (u : Url) : Parts :=
  ⟨u.scheme, u.authorityText.drop 2, u.path, u.query, u.fragment⟩

/-- What is read of an authority has none of the signs that would end it. -/
theorem not_endsAuthority_of_mem {user pass : List Char} {host : Host}
    (huser : u.userName = escape userSet user) (hpass : u.password = escape userSet pass) (hhost : u.host = some host)
    (hclosed : host.IsClosed) : ∀ c ∈ u.parts.authority, endsAuthority false c = false := by
  intro c hc
  simp only [parts, authorityText, hhost, List.cons_append, List.drop_succ_cons, List.drop_zero,
    List.mem_append] at hc
  rcases hc with (hc | hc) | hc
  · -- the user
    unfold userText at hc
    split at hc
    · cases hc
    · simp only [List.mem_append, List.mem_singleton] at hc
      rcases hc with (hc | hc) | rfl
      · exact not_endsAuthority_escape (huser ▸ hc)
      · split at hc
        · cases hc
        · rcases List.mem_cons.1 hc with rfl | hc
          · rfl
          · exact not_endsAuthority_escape (hpass ▸ hc)
      · rfl
  · exact hclosed.signs c hc
  · -- the port
    cases hport : u.port with
    | none =>
      rw [hport] at hc
      cases hc
    | some port =>
      rw [hport] at hc
      rcases List.mem_cons.1 hc with rfl | hc
      · rfl
      · exact not_endsAuthority_toDigits (by decide) (by decide) hc

/-- Is a URL put together from proper parts, and does it have an authority? -/
structure IsWeb (u : Url) : Prop where
  toText_eq : u.toText = u.parts.text
  proper : u.parts.IsProper
  authority : u.parts.authority ≠ []

/-- **A URL from which something can be fetched is put together from proper parts.** -/
theorem isWeb_of_read (h : read s = .ok u) (hfetch : isFetchable u.scheme = true) : u.IsWeb := by
  unfold read at h
  split at h
  · next scheme behind hscheme =>
    obtain ⟨user, pass, host, port, rest, hclosed, rfl⟩ := exists_of_readBehindScheme h hfetch
    have hfetch : isFetchable scheme = true := hfetch
    obtain ⟨hfile, hknown, hword⟩ := kind_of_isFetchable hfetch
    obtain ⟨hhead, hpath⟩ := readWholePath_web hfile hknown (splitEnding scheme rest).path
    constructor
    case toText_eq => simp [toText, Parts.text, parts, authorityText, finish]
    case proper =>
      refine ⟨hword, not_endsAuthority_of_mem rfl rfl rfl hclosed, hhead, hpath, fun q hq => ?_⟩
      simp only [parts, finish, splitEnding, hknown, if_true, Option.map_eq_some_iff] at hq
      obtain ⟨raw, -, rfl⟩ := hq
      exact notMem_escape (by decide) (by decide)
    case authority =>
      simp only [parts, authorityText, finish]
      simp [hclosed.ne_nil]
  · cases h

end Url

end ImportCensus
