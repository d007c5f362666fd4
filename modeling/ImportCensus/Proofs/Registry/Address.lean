/-
ImportCensus/Proofs/Registry/Address.lean

Where the document of a package is asked for.

A name stands in the URL as one segment of its path: the slash behind a scope is escaped, and every other
character is left as it is.  So the segment stands for the same bytes as the name itself would.  These are
the bytes of the name unless it has an escape of its own, and the segment has the question marks and hash
signs of the name.

Main statement: a segment has no slash; it stands for its name if the name has no escape, and then no other
package has the same URL; and no part of the name becomes a query or a fragment if it has neither of the
signs (`address_of_package`).  None of the conditions can be left out (`addresses_of_awkward_names`).
-/
import ImportCensus.Proofs.Package.Name
import ImportCensus.Proofs.Url.Percent
import ImportCensus.Proofs.Url.Reader
import ImportCensus.Registry.Client

namespace ImportCensus

open Text

namespace PackageName

variable {n m : PackageName} {s scope segment : List Char} {c : Char}

/-! ### The segment of a name -/

theorem flatMap_encodeChar (h : '/' ∉ s) : s.flatMap encodeChar = s := by
  induction s with
  | nil => rfl
  | cons c r ih =>
    rw [List.mem_cons, not_or] at h
    rw [List.flatMap_cons, ih h.2, encodeChar, if_neg (Ne.symm h.1)]
    rfl

/-- A name without a scope is its own segment; behind a scope, the slash is escaped. -/
theorem encoded_cases (n : PackageName) :
    (n.isScoped = false ∧ '/' ∉ n.text.toList ∧ n.encoded = n.text) ∨
      ∃ scope segment, n.isScoped = true ∧ scope.head? = some '@' ∧ '/' ∉ scope ∧ '/' ∉ segment ∧
        n.text.toList = scope ++ '/' :: segment ∧
        n.encoded.toList = scope ++ '%' :: '2' :: 'F' :: segment := by
  have hname := isPackageName_iff.1 n.isName
  generalize htext : n.text.toList = s at hname
  cases hname with
  | plain hne hslash hdot hat =>
    have hscoped : n.isScoped = false := by
      rw [isScoped, htext]
      simpa using hat
    exact .inl ⟨hscoped, hslash, by rw [encoded, hscoped]; rfl⟩
  | @inScope scope segment hscope hsegment hslash hslash' =>
    have hscoped : n.isScoped = true := by
      rw [isScoped, htext]
      rfl
    have hslash : '/' ∉ '@' :: scope := by simpa using hslash
    refine .inr ⟨'@' :: scope, segment, hscoped, rfl, hslash, hslash', rfl, ?_⟩
    have hsegment : ('/' :: segment).flatMap encodeChar = '%' :: '2' :: 'F' :: segment := by
      rw [List.flatMap_cons, flatMap_encodeChar hslash']
      rfl
    rw [encoded, if_pos hscoped, String.toList_ofList, htext, List.flatMap_append, hsegment,
      flatMap_encodeChar hslash]

theorem slash_notMem_encoded (n : PackageName) : '/' ∉ n.encoded.toList := by
  obtain ⟨-, hslash, hencoded⟩ | ⟨scope, segment, -, -, hscope, hsegment, -, hencoded⟩ :=
    n.encoded_cases
  · rwa [hencoded]
  · rw [hencoded]
    simp [hscope, hsegment]

/-- Apart from the slash and its escape, a segment has the characters of the name. -/
theorem mem_encoded_iff (hc : c ∉ ['/', '%', '2', 'F']) : c ∈ n.encoded.toList ↔ c ∈ n.text.toList := by
  obtain ⟨-, -, hencoded⟩ | ⟨scope, segment, -, -, -, -, htext, hencoded⟩ := n.encoded_cases
  · rw [hencoded]
  · simp only [List.mem_cons, List.not_mem_nil, or_false, not_or] at hc
    rw [htext, hencoded]
    simp [hc]

/-- A segment stands for the same bytes as the name. -/
theorem unescape_encoded (n : PackageName) :
    Url.unescape n.encoded.toList = Url.unescape n.text.toList := by
  obtain ⟨-, -, hencoded⟩ | ⟨scope, segment, -, -, -, -, htext, hencoded⟩ := n.encoded_cases
  · rw [hencoded]
  · have hslash : Url.unescape ('/' :: segment) = 0x2F :: Url.unescape segment :=
      Url.unescape_cons (Url.startsEscape_cons (by decide) segment)
    have hescape : Url.unescape ('%' :: '2' :: 'F' :: segment) = 0x2F :: Url.unescape segment :=
      Url.unescape_escape (x := 2) (y := 15) rfl rfl segment
    rw [htext, hencoded, Url.unescape_append rfl, Url.unescape_append rfl, hslash, hescape]

/-! ### Names with the same segment -/

theorem isScoped_eq_of_encoded (h : n.encoded = m.encoded) : n.isScoped = m.isScoped := by
  have hhead : ∀ n : PackageName, n.isScoped = (n.encoded.toList.head? == some '@') := by
    intro n
    obtain ⟨-, -, hencoded⟩ | ⟨scope, segment, hscoped, hat, -, -, -, hencoded⟩ := n.encoded_cases
    · rw [hencoded, isScoped]
    · rw [hscoped, hencoded, List.head?_append, hat]
      rfl
  rw [hhead, hhead, h]

/-- In a segment a slash takes two bytes more. -/
theorem length_encode_encoded (n : PackageName) :
    (encode n.encoded.toList).length
      = (encode n.text.toList).length + if n.isScoped then 2 else 0 := by
  obtain ⟨hscoped, -, hencoded⟩ | ⟨scope, segment, hscoped, -, -, -, htext, hencoded⟩ := n.encoded_cases
  · rw [hencoded, hscoped]
    rfl
  · have hslash : (encode ('/' :: segment)).length = 1 + (encode segment).length :=
      length_encode_cons '/' segment
    have hescape : (encode ('%' :: '2' :: 'F' :: segment)).length = 3 + (encode segment).length := by
      rw [length_encode_cons, length_encode_cons, length_encode_cons, ← Nat.add_assoc,
        ← Nat.add_assoc]
      rfl
    rw [htext, hencoded, hscoped, encode_append, encode_append, List.length_append,
      List.length_append, hslash, hescape, if_pos rfl]
    omega

/-- A name without an escape shares its segment with no other name. -/
theorem eq_of_encoded (h : n.encoded = m.encoded) (hn : ¬Url.HasEscape n.text.toList) : n = m := by
  have hbytes : Url.unescape n.text.toList = Url.unescape m.text.toList := by
    rw [← unescape_encoded, ← unescape_encoded, h]
  have hlength : (encode n.text.toList).length = (encode m.text.toList).length := by
    have hn := length_encode_encoded n
    have hm := length_encode_encoded m
    rw [h, isScoped_eq_of_encoded h] at hn
    omega
  have hm : ¬Url.HasEscape m.text.toList := by
    intro hm
    have hlt := Url.length_unescape_lt hm
    rw [← hbytes, Url.unescape_eq_encode_iff.2 hn, hlength] at hlt
    exact Nat.lt_irrefl _ hlt
  rw [Url.unescape_eq_encode_iff.2 hn, Url.unescape_eq_encode_iff.2 hm] at hbytes
  have htext : some n.text.toList = some m.text.toList := by
    rw [← decode?_encode, ← decode?_encode, hbytes]
  have heq : n.text = m.text := String.ext (Option.some.inj htext)
  have hread : some n = some m := by
    rw [← ofText?_text, ← ofText?_text, heq]
  exact Option.some.inj hread

end PackageName

namespace Registry

variable {base : String} {n m : PackageName}

/-! ### URLs of documents -/

theorem toList_documentUrl (base : String) (n : PackageName) :
    (documentUrl base n).toList = trimSlashes base.toList ++ '/' :: n.encoded.toList := by
  simp [documentUrl, below]

theorem documentUrl_eq_iff : documentUrl base n = documentUrl base m ↔ n.encoded = m.encoded := by
  constructor
  · intro h
    have htext := congrArg String.toList h
    rw [toList_documentUrl, toList_documentUrl, List.append_cancel_left_eq, List.cons.injEq] at htext
    exact String.ext htext.2
  · intro h
    rw [documentUrl, documentUrl, h]

theorem mem_trimSlashes {c : Char} {s : List Char} (h : c ∈ trimSlashes s) : c ∈ s := by
  rw [trimSlashes, List.mem_reverse] at h
  exact List.mem_reverse.1 ((List.dropWhile_sublist _).subset h)

/-- Behind a base without the signs, the URL has just those of the name. -/
theorem mem_documentUrl_iff {c : Char} (hc : c ∉ ['/', '%', '2', 'F']) (hbase : c ∉ base.toList) :
    c ∈ (documentUrl base n).toList ↔ c ∈ n.text.toList := by
  have hslash : c ≠ '/' := by
    rintro rfl
    exact hc (by decide)
  rw [toList_documentUrl, List.mem_append, List.mem_cons, ← PackageName.mem_encoded_iff hc,
    or_iff_right fun h => hbase (mem_trimSlashes h), or_iff_right hslash]

/-- **How far a package is addressed by the URL of its document.**  For every base and every name:

  * the segment of the name has no slash, and the question marks and hash signs of the name;
  * it stands for the name just if the name has no escape, and then the URL is that of no other package;
  * behind a base without question mark and hash sign, the URL that is read has neither query nor fragment
    just if the name has neither of the signs. -/
theorem address_of_package (base : String) (n : PackageName) :
    ('/' ∉ n.encoded.toList ∧ ∀ c ∈ ['?', '#'], c ∈ n.encoded.toList ↔ c ∈ n.text.toList) ∧
    (Url.unescape n.encoded.toList = encode n.text.toList ↔ ¬Url.HasEscape n.text.toList) ∧
    (¬Url.HasEscape n.text.toList → ∀ m, documentUrl base n = documentUrl base m → n = m) ∧
    ('?' ∉ base.toList → '#' ∉ base.toList →
      ∀ u, Url.read (documentUrl base n).toList = .ok u →
        (u.query = none ∧ u.fragment = none ↔ '?' ∉ n.text.toList ∧ '#' ∉ n.text.toList)) := by
  have hsigns : ∀ c ∈ ['?', '#'], c ∉ ['/', '%', '2', 'F'] := by simp
  refine ⟨⟨n.slash_notMem_encoded, fun c hc => PackageName.mem_encoded_iff (hsigns c hc)⟩, ?_, ?_, ?_⟩
  · rw [PackageName.unescape_encoded]
    exact Url.unescape_eq_encode_iff
  · intro hn m h
    exact PackageName.eq_of_encoded (documentUrl_eq_iff.1 h) hn
  · intro hquery hfragment u hread
    rw [Url.query_and_fragment_eq_none_iff hread, mem_documentUrl_iff (hsigns _ (by decide)) hquery,
      mem_documentUrl_iff (hsigns _ (by decide)) hfragment]

/-- A scoped name is addressed. -/
theorem address_of_scoped_name :
    Url.unescape (PackageName.mk "@types/node" rfl).encoded.toList = encode "@types/node".toList ∧
      ∃ u, Url.read (documentUrl "https://registry.npmjs.org/" ⟨"@types/node", rfl⟩).toList = .ok u ∧
        u.query = none ∧ u.fragment = none := by
  obtain ⟨-, hstands, -, hread⟩ :=
    address_of_package "https://registry.npmjs.org/" ⟨"@types/node", rfl⟩
  have hsome : (Url.read
      (documentUrl "https://registry.npmjs.org/" ⟨"@types/node", rfl⟩).toList).toOption.isSome := by
    decide +kernel
  obtain ⟨u, hu⟩ := Option.isSome_iff_exists.1 hsome
  rw [toOption_eq_some_iff] at hu
  exact ⟨hstands.2 (by decide), u, hu, (hread (by decide) (by decide) u hu).2 (by decide)⟩

/-- One name becomes a fragment behind the root of the registry, one segment stands for another text than
its name, and two packages have one URL. -/
theorem addresses_of_awkward_names :
    (Url.read (documentUrl "https://registry.npmjs.org" ⟨"#internal", rfl⟩).toList).toOption.map
        (fun u => (u.path, u.fragment)) = some (['/'], some "internal".toList) ∧
    Url.unescape (PackageName.mk "a%2Fb" rfl).encoded.toList ≠ encode "a%2Fb".toList ∧
    (PackageName.mk "@a%2Fb/c" rfl ≠ ⟨"@a/b%2Fc", rfl⟩ ∧
      documentUrl "https://registry.npmjs.org" ⟨"@a%2Fb/c", rfl⟩
        = documentUrl "https://registry.npmjs.org" ⟨"@a/b%2Fc", rfl⟩) := by
  refine ⟨by decide +kernel, by decide +kernel, by decide, by decide +kernel⟩

end Registry

end ImportCensus
