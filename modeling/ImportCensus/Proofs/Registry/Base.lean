/-
ImportCensus/Proofs/Registry/Base.lean

What is asked for behind a base URL.

A request is the text of a base URL without slashes at its end, and a slash and a segment behind it.  So the
segment goes to the last part of the base URL, whatever that is (`extend`): behind a base URL with neither
query nor fragment it stands in the path, and it goes to the fragment of one that has a fragment, and to
the query of one that only has a query.  The check of settings accepts all of them.

Main statement: where the requests go that are made with accepted settings (`requests_of_validate`).  Not all of
them go to a path below the base URL (`request_behind_query`).
-/
import ImportCensus.Proofs.Config.Validity
import ImportCensus.Proofs.Registry.Address
import ImportCensus.Proofs.Url.Parts
import Mathlib.Data.List.DropRight

namespace ImportCensus

variable {s t segment : List Char} {c : Char}

namespace Registry

/-! ### Slashes at the end -/

theorem trimSlashes_prefix (s : List Char) : trimSlashes s <+: s :=
  List.rdropWhile_prefix _ s

theorem trimSlashes_trimSlashes (s : List Char) : trimSlashes (trimSlashes s) = trimSlashes s :=
  List.rdropWhile_idempotent _ s

/-- No slash is dropped in front of another character. -/
theorem trimSlashes_append_cons (hc : c ≠ '/') (s t : List Char) :
    trimSlashes (s ++ c :: t) = s ++ c :: trimSlashes t := by
  rw [trimSlashes, trimSlashes, List.reverse_append, List.reverse_cons, List.append_assoc, List.dropWhile_append]
  split
  · next hall =>
    rw [List.isEmpty_iff] at hall
    simp [hall, hc]
  · simp

end Registry

namespace Url.Parts

open Registry

variable {p : Parts}

/-! ### A segment behind a base URL -/

/-- The parts with a segment behind the last one of them. -/
def extend (p : Parts) (segment : List Char) : Parts :=
  match p.query, p.fragment with
  | _, some fragment => { p with fragment := some (trimSlashes fragment ++ '/' :: segment) }
  | some query, none => { p with query := some (trimSlashes query ++ '/' :: segment) }
  | none, none => { p with path := trimSlashes p.path ++ '/' :: segment }

/-- The text of parts with a segment behind it, if the slashes between them are in the last part. -/
theorem text_extend (h : p.IsProper) (hauthority : p.authority ≠ []) (segment : List Char) :
    (p.extend segment).text = trimSlashes p.text ++ '/' :: segment := by
  obtain ⟨scheme, authority, path, query, fragment⟩ := p
  cases fragment with
  | some fragment =>
    simp only [text, extend, partText, Option.elim_some]
    rw [trimSlashes_append_cons (by decide)]
    simp
  | none =>
    cases query with
    | some query =>
      simp only [text, extend, partText, Option.elim_some, Option.elim_none, List.append_nil]
      rw [trimSlashes_append_cons (by decide)]
      simp
    | none =>
      -- the authority does not end in a slash, so that no more than the path is trimmed
      obtain ⟨front, last, rfl⟩ := (List.eq_nil_or_concat' authority).resolve_left hauthority
      have hlast : last ≠ '/' := by
        rintro rfl
        cases h.authority '/' (by simp)
      have htext : text ⟨scheme, front ++ [last], path, none, none⟩
          = (scheme ++ ':' :: '/' :: '/' :: front) ++ last :: path := by
        simp [text, partText]
      rw [htext, trimSlashes_append_cons hlast]
      simp [extend, text, partText]

theorem head?_trimSlashes_append (h : t.head? = some '/') (segment : List Char) :
    (trimSlashes t ++ '/' :: segment).head? = some '/' := by
  cases htrimmed : trimSlashes t with
  | nil => rfl
  | cons d r =>
    obtain ⟨more, hmore⟩ := trimSlashes_prefix t
    rw [← hmore, htrimmed] at h
    exact h

theorem IsProper.extend (h : p.IsProper) (hsegment : '?' ∉ segment ∧ '#' ∉ segment) :
    (p.extend segment).IsProper := by
  have hpart : ∀ {sign : Char}, sign = '?' ∨ sign = '#' → sign ∉ segment → ∀ {t}, sign ∉ t →
      sign ∉ trimSlashes t ++ '/' :: segment := by
    intro sign hsign hsegment t ht
    have hslash : sign ≠ '/' := by rcases hsign with rfl | rfl <;> decide
    simp only [List.mem_append, List.mem_cons, not_or]
    exact ⟨fun hmem => ht (mem_trimSlashes hmem), hslash, hsegment⟩
  obtain ⟨scheme, authority, path, query, fragment⟩ := p
  cases fragment with
  | some fragment => exact ⟨h.scheme, h.authority, h.path_head, h.path, h.query⟩
  | none =>
    cases query with
    | some query =>
      refine ⟨h.scheme, h.authority, h.path_head, h.path, ?_⟩
      rintro _ ⟨⟩
      exact hpart (.inr rfl) hsegment.2 (h.query query rfl)
    | none =>
      refine ⟨h.scheme, h.authority, head?_trimSlashes_append h.path_head segment, ?_, nofun⟩
      exact ⟨hpart (.inl rfl) hsegment.1 h.path.1, hpart (.inr rfl) hsegment.2 h.path.2⟩

theorem extend_plain_iff : (p.extend segment).query = none ∧ (p.extend segment).fragment = none ↔
    p.query = none ∧ p.fragment = none := by
  obtain ⟨scheme, authority, path, query, fragment⟩ := p
  cases query <;> cases fragment <;> simp [extend]

end Url.Parts

namespace Registry

open Url

variable {n : PackageName} {u : Url} {base path : String} {c : Config}

/-! ### Requests behind a base URL -/

/-- Does a request go to a segment behind a base URL? -/
structure GoesBehind (u : Url) (segment : List Char) (request : String) : Prop where
  /-- The segment is in the last part of the base URL. -/
  parts : partsOf request.toList = u.parts.extend segment
  /-- The request has neither query nor fragment just if the base URL has neither. -/
  plain : (partsOf request.toList).query = none ∧ (partsOf request.toList).fragment = none ↔
    u.query = none ∧ u.fragment = none
  /-- Then the segment is in the path. -/
  path : u.query = none → u.fragment = none →
    (partsOf request.toList).path = trimSlashes u.path ++ '/' :: segment
  /-- The URL that is read from the request has a query or a fragment just if the base URL has one. -/
  read : ∀ target, Url.read request.toList = .ok target →
    (target.query = none ∧ target.fragment = none ↔ u.query = none ∧ u.fragment = none)

/-- **A request goes to the segment behind the base URL**, whatever parts that has. -/
theorem goesBehind_below (h : u.IsWeb) (hpath : '?' ∉ path.toList ∧ '#' ∉ path.toList) :
    GoesBehind u path.toList (below (String.ofList (trimSlashes u.toText)) path) := by
  have hproper := h.proper.extend hpath
  have htext : (below (String.ofList (trimSlashes u.toText)) path).toList = (u.parts.extend path.toList).text := by
    rw [Parts.text_extend h.proper h.authority, ← h.toText_eq]
    simp [below, trimSlashes_trimSlashes]
  have hparts : partsOf (below (String.ofList (trimSlashes u.toText)) path).toList = u.parts.extend path.toList := by
    rw [htext, hproper.partsOf_text]
  refine ⟨hparts, ?_, fun hquery hfragment => ?_, fun target hread => ?_⟩
  · rw [hparts]
    exact Parts.extend_plain_iff
  · rw [hparts, Parts.extend, show u.parts.query = none from hquery, show u.parts.fragment = none from hfragment]
    rfl
  · rw [query_and_fragment_eq_none_iff hread, htext, hproper.signs_notMem_iff]
    exact Parts.extend_plain_iff

theorem address_eq (hread : Url.read base.toList = .ok u) :
    address base = .ok (String.ofList (trimSlashes u.toText)) := by
  rw [address, hread]

/-- **Where requests go that are made with accepted settings.**  They go behind the base URLs of the settings: to
a path below a base URL just if that has neither query nor fragment. -/
theorem requests_of_validate (hc : c.validate = .ok ()) (hn : '?' ∉ n.text.toList ∧ '#' ∉ n.text.toList) :
    ∃ documents downloads addresses,
      Url.read c.registry.registryUrl.toList = .ok documents ∧
      Url.read c.registry.downloadsUrl.toList = .ok downloads ∧
      Addresses.ofBases c.registry.registryUrl c.registry.downloadsUrl = .ok addresses ∧
      GoesBehind documents n.encoded.toList (documentUrl addresses.documents n) ∧
      GoesBehind downloads ("downloads/point/last-week/" ++ n.text).toList (downloadsUrl addresses.downloads n) := by
  have husable := Config.validate_eq_ok_iff.1 hc
  obtain ⟨documents, hdocuments, hscheme⟩ := husable.documents
  obtain ⟨downloads, hdownloads, hscheme'⟩ := husable.downloads
  have hsegment : '?' ∉ n.encoded.toList ∧ '#' ∉ n.encoded.toList := by
    rwa [PackageName.mem_encoded_iff (by decide), PackageName.mem_encoded_iff (by decide)]
  have hpoint : '?' ∉ ("downloads/point/last-week/" ++ n.text).toList ∧
      '#' ∉ ("downloads/point/last-week/" ++ n.text).toList := by
    rw [String.toList_append, List.mem_append, List.mem_append, not_or, not_or]
    exact ⟨⟨by decide, hn.1⟩, by decide, hn.2⟩
  have haddresses : Addresses.ofBases c.registry.registryUrl c.registry.downloadsUrl
      = .ok ⟨String.ofList (trimSlashes documents.toText), String.ofList (trimSlashes downloads.toText)⟩ := by
    rw [Addresses.ofBases, address_eq hdocuments, address_eq hdownloads]
    rfl
  exact ⟨documents, downloads, _, hdocuments, hdownloads, haddresses,
    goesBehind_below (isWeb_of_read hdocuments (Config.isFetchable_iff.2 hscheme)) hsegment,
    goesBehind_below (isWeb_of_read hdownloads (Config.isFetchable_iff.2 hscheme')) hpoint⟩

/-- A base URL with a user, a port, a capital and several slashes at its end. -/
theorem requests_of_mirror :
    let c : Config := ⟨"1.0", { RegistrySettings.standard with
      registryUrl := "https://me@Mirror:8443/npm//", downloadsUrl := "http://mirror" }⟩
    c.validate = .ok () ∧ ∃ addresses,
      Addresses.ofBases c.registry.registryUrl c.registry.downloadsUrl = .ok addresses ∧
      partsOf (documentUrl addresses.documents ⟨"@types/node", rfl⟩).toList
        = ⟨"https".toList, "me@mirror:8443".toList, "/npm/@types%2Fnode".toList, none, none⟩ ∧
      partsOf (downloadsUrl addresses.downloads ⟨"@types/node", rfl⟩).toList
        = ⟨"http".toList, "mirror".toList, "/downloads/point/last-week/@types/node".toList, none, none⟩ := by
  intro c
  have hc : c.validate = .ok () := by decide +kernel
  obtain ⟨documents, downloads, addresses, hdocuments, hdownloads, haddresses, hdocument, hcount⟩ :=
    requests_of_validate hc (n := ⟨"@types/node", rfl⟩) (by decide)
  have hparts : (Url.read c.registry.registryUrl.toList).toOption.map Url.parts
      = some ⟨"https".toList, "me@mirror:8443".toList, "/npm//".toList, none, none⟩ := by
    decide +kernel
  have hparts' : (Url.read c.registry.downloadsUrl.toList).toOption.map Url.parts
      = some ⟨"http".toList, "mirror".toList, ['/'], none, none⟩ := by
    decide +kernel
  rw [hdocuments] at hparts
  rw [hdownloads] at hparts'
  refine ⟨hc, addresses, haddresses, ?_, ?_⟩
  · rw [hdocument.parts, Option.some.inj hparts]
    decide +kernel
  · rw [hcount.parts, Option.some.inj hparts']
    decide +kernel

/-- **A base URL with a query is accepted**, and the name of a package becomes a part of the query. -/
theorem request_behind_query :
    let c : Config := ⟨"1.0", { RegistrySettings.standard with
      registryUrl := "http://mirror/?key=1", downloadsUrl := "http://mirror" }⟩
    c.validate = .ok () ∧ ∃ addresses,
      Addresses.ofBases c.registry.registryUrl c.registry.downloadsUrl = .ok addresses ∧
      documentUrl addresses.documents ⟨"react", rfl⟩ = "http://mirror/?key=1/react" ∧
      partsOf (documentUrl addresses.documents ⟨"react", rfl⟩).toList
        = ⟨"http".toList, "mirror".toList, ['/'], some "key=1/react".toList, none⟩ := by
  intro c
  have hc : c.validate = .ok () := by decide +kernel
  have haddresses : Addresses.ofBases c.registry.registryUrl c.registry.downloadsUrl
      = .ok ⟨"http://mirror/?key=1", "http://mirror"⟩ := by decide +kernel
  exact ⟨hc, _, haddresses, by decide +kernel, by decide +kernel⟩

end Registry

end ImportCensus
