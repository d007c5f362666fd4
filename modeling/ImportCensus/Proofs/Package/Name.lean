/-
ImportCensus/Proofs/Package/Name.lean

The names of packages as a language.

A name is a segment that starts with neither a dot nor an at sign, or a scope and a segment behind an at
sign; no segment is empty or holds a slash (`IsName`).  Whatever the specifier, the part of it that would
be a name stands at its beginning and ends where the specifier ends or goes on with a slash; and where the
beginning is a name, the part is the whole of it.

Main statement: a specifier asks for just the name that it is or goes on from, and every reader of names
accepts this one language (`ofSpecifier?_reads_names`).
-/
import ImportCensus.Package.Name
import ImportCensus.Proofs.Path
import ImportCensus.Report.Format

namespace ImportCensus

open Text

/-- The texts that are names of packages. -/
inductive IsName : List Char → Prop
  | plain {s : List Char} (hne : s ≠ []) (hslash : '/' ∉ s) (hdot : s.head? ≠ some '.')
      (hat : s.head? ≠ some '@') : IsName s
  | inScope {scope segment : List Char} (hscope : scope ≠ []) (hsegment : segment ≠ [])
      (hslash : '/' ∉ scope) (hslash' : '/' ∉ segment) : IsName ('@' :: scope ++ '/' :: segment)

namespace PackageName

variable {s n v : List Char}

/-! ### The pieces of a name -/

theorem split_scoped {scope segment : List Char} (hscope : '/' ∉ scope) (hsegment : '/' ∉ segment) :
    split '/' ('@' :: scope ++ '/' :: segment) = ['@' :: scope, segment] := by
  rw [split_append_sep, split_of_notMem, split_of_notMem hsegment]
  · rfl
  · simpa using hscope

/-- The check of a name accepts just the names. -/
theorem isPackageName_iff : isPackageName s = true ↔ IsName s := by
  constructor
  · intro h
    rw [isPackageName.eq_def] at h
    split at h
    · cases h
    · next r =>
      split at h
      · next scope segment hsplit =>
        -- two pieces that are not empty are a scope and a segment
        rw [Bool.and_eq_true, Bool.not_eq_true', Bool.not_eq_true', List.isEmpty_eq_false_iff,
          List.isEmpty_eq_false_iff] at h
        have hr : r = scope ++ '/' :: segment := by
          rw [← join_split '/' r, hsplit]
          rfl
        rw [hr]
        exact .inScope h.1 h.2 (sep_notMem_of_mem_split (by rw [hsplit]; simp))
          (sep_notMem_of_mem_split (by rw [hsplit]; simp))
      · cases h
    · next c r hat =>
      rw [Bool.and_eq_true, bne_iff_ne, Bool.not_eq_true', ← Bool.not_eq_true,
        List.contains_iff_mem] at h
      refine .plain (List.cons_ne_nil _ _) h.2 ?_ ?_
      · simpa using h.1
      · intro hhead
        rw [List.head?_cons, Option.some.injEq] at hhead
        exact hat hhead
  · intro h
    cases h with
    | plain hne hslash hdot hat =>
      obtain ⟨c, r, rfl⟩ := List.exists_cons_of_ne_nil hne
      rw [List.head?_cons, ne_eq, Option.some.injEq] at hdot hat
      rw [isPackageName.eq_def]
      split
      · next heq => cases heq
      · next heq => exact absurd (List.cons.inj heq).1 hat
      · next c' r' _ heq =>
        cases heq
        rw [Bool.and_eq_true, bne_iff_ne, Bool.not_eq_true', ← Bool.not_eq_true,
          List.contains_iff_mem]
        exact ⟨hdot, hslash⟩
    | @inScope scope segment hscope hsegment hslash hslash' =>
      have hsplit : split '/' (scope ++ '/' :: segment) = [scope, segment] := by
        rw [split_append_sep, split_of_notMem hslash, split_of_notMem hslash']
        rfl
      rw [List.cons_append, isPackageName]
      simp [hsplit, hscope, hsegment]

/-! ### The beginning of a specifier -/

/-- The leading segments are the whole specifier, or it goes on behind them with a slash. -/
theorem eq_or_goes_on (v : List Char) :
    v = leadingSegments v ∨ ∃ r, v = leadingSegments v ++ '/' :: r := by
  have hjoin := join_split '/' v
  rw [leadingSegments.eq_def]
  split
  · next first second rest hsplit =>
    rw [hsplit, join] at hjoin
    · split
      · cases rest with
        | nil => exact .inl hjoin.symm
        | cons third rest => exact .inr ⟨join '/' (third :: rest), by simp [← hjoin, join]⟩
      · exact .inr ⟨_, hjoin.symm⟩
    · simp
  · next hmore =>
    -- without a second piece, the first one is all
    obtain ⟨first, rest, hsplit⟩ := List.exists_cons_of_ne_nil (split_ne_nil '/' v)
    cases rest with
    | nil =>
      rw [hsplit] at hjoin
      rw [hsplit]
      left
      simpa [join] using hjoin.symm
    | cons second rest => exact absurd hsplit (hmore first second rest)

/-- Where the pieces start with those of a name, the leading segments are the name. -/
theorem leadingSegments_of_split {more : List (List Char)} (h : IsName n)
    (hsplit : split '/' v = split '/' n ++ more) : leadingSegments v = n := by
  rw [leadingSegments, hsplit]
  cases h with
  | plain hne hslash hdot hat =>
    rw [split_of_notMem hslash]
    cases more with
    | nil => simp
    | cons second rest => simp [hat]
  | inScope hscope hsegment hslash hslash' =>
    rw [split_scoped hslash hslash']
    simp

/-- A name is the leading segments of just the texts that it is or that go on from it. -/
theorem leadingSegments_eq_iff (h : IsName n) :
    leadingSegments v = n ↔ v = n ∨ ∃ r, v = n ++ '/' :: r := by
  constructor
  · rintro rfl
    exact eq_or_goes_on v
  · rintro (rfl | ⟨r, rfl⟩)
    · exact leadingSegments_of_split h (List.append_nil _).symm
    · exact leadingSegments_of_split h (split_append_sep n r)

/-! ### Readers of names -/

theorem exists_text_iff {s : String} : (∃ n, ofText? s = some n) ↔ IsName s.toList := by
  rw [← isPackageName_iff]
  constructor
  · rintro ⟨n, h⟩
    rw [← text_of_ofText? h]
    exact n.isName
  · intro h
    exact ⟨⟨s, h⟩, dif_pos h⟩

/-- A specifier asks for just the name that it is or goes on from. -/
theorem ofSpecifier?_eq_some_iff {v : String} {n : PackageName} :
    ofSpecifier? v = some n ↔ v = n.text ∨ ∃ r, v = n.text ++ "/" ++ r := by
  have hname : IsName n.text.toList := isPackageName_iff.1 n.isName
  have hlists : (v.toList = n.text.toList ∨ ∃ r, v.toList = n.text.toList ++ '/' :: r) ↔
      (v = n.text ∨ ∃ r, v = n.text ++ "/" ++ r) := by
    refine or_congr String.toList_inj ⟨?_, ?_⟩
    · rintro ⟨r, h⟩
      exact ⟨.ofList r, String.ext (by simpa using h)⟩
    · rintro ⟨r, rfl⟩
      exact ⟨r.toList, by simp⟩
  rw [← hlists, ← leadingSegments_eq_iff hname]
  constructor
  · intro h
    exact (text_ofSpecifier? h).symm
  · intro h
    rw [ofSpecifier?, h, String.ofList_toList, ofText?_text]

/-- A text spells a name exactly if it asks for the name and is the whole of it. -/
theorem ofText?_eq_some_iff {s : String} {n : PackageName} :
    ofText? s = some n ↔ ofSpecifier? s = some n ∧ n.text = s := by
  constructor
  · intro h
    have htext := text_of_ofText? h
    exact ⟨ofSpecifier?_eq_some_iff.2 (.inl htext.symm), htext⟩
  · rintro ⟨-, rfl⟩
    exact ofText?_text n

theorem text_ofSpecifier?_eq_some_iff {v n : String} :
    (ofSpecifier? v).map text = some n ↔ IsName n.toList ∧ (v = n ∨ ∃ r, v = n ++ "/" ++ r) := by
  rw [Option.map_eq_some_iff]
  constructor
  · rintro ⟨m, h, rfl⟩
    exact ⟨isPackageName_iff.1 m.isName, ofSpecifier?_eq_some_iff.1 h⟩
  · rintro ⟨hname, h⟩
    exact ⟨⟨n, isPackageName_iff.2 hname⟩, ofSpecifier?_eq_some_iff.2 h, rfl⟩

theorem exists_packageNameOf_iff {s : String} :
    (∃ n, Decoder.packageNameOf s = .ok n) ↔ IsName s.toList := by
  rw [← exists_text_iff, Decoder.packageNameOf]
  cases ofText? s <;> simp

/-- As the key of a table, a text is read just if it is a name. -/
theorem exists_usageIndex_iff {s : String} {d : Datum} :
    (∃ index, Decoder.usageIndex (.table [(s, d)]) = .ok index) ↔
      IsName s.toList ∧ ∃ u, Decoder.packageUsage d = .ok u := by
  rw [← exists_packageNameOf_iff]
  have hfields : Datum.sortedFields [(s, d)] = [(s, d)] := rfl
  have hentries : Decoder.entries Decoder.packageNameOf Decoder.packageUsage (.table [(s, d)])
      = (do
          let n ← Decoder.packageNameOf s
          let u ← (Decoder.packageUsage d).mapError (.within (.key s))
          return [(n, u)]) := by
    rw [Decoder.entries, hfields, Decoder.entriesOf]
    rfl
  rw [Decoder.usageIndex, hentries]
  cases Decoder.packageNameOf s with
  | error m => simp [bind, Except.bind]
  | ok n => cases Decoder.packageUsage d <;> simp [bind, Except.bind, Except.mapError, pure, Except.pure]

/-! ### One language -/

/-- **All readers of names read one language.**  A specifier asks for the name `n` exactly if `n` is a name
and the specifier is `n` or goes on from it with a slash.  So the names that specifiers ask for, the texts
that ask for themselves, and the texts that are accepted as names, in data as values or as the keys of a
table, are the texts that are names; to ask for a name again changes nothing; and neither do further
segments behind a specifier. -/
theorem ofSpecifier?_reads_names :
    (∀ v n : String, (ofSpecifier? v).map text = some n ↔
      IsName n.toList ∧ (v = n ∨ ∃ r, v = n ++ "/" ++ r)) ∧
    (∀ n : String, (∃ v, (ofSpecifier? v).map text = some n) ↔ IsName n.toList) ∧
    (∀ n : String, (ofSpecifier? n).map text = some n ↔ IsName n.toList) ∧
    (∀ s : String, (∃ n, ofText? s = some n) ↔ IsName s.toList) ∧
    (∀ s : String, (∃ n, Decoder.packageName (.text s) = .ok n) ↔ IsName s.toList) ∧
    (∀ (s : String) (d : Datum), (∃ index, Decoder.usageIndex (.table [(s, d)]) = .ok index) ↔
      IsName s.toList ∧ ∃ u, Decoder.packageUsage d = .ok u) ∧
    (∀ v : String, ((ofSpecifier? v).bind fun n => ofSpecifier? n.text) = ofSpecifier? v) ∧
    ∀ (v r : String) (n : PackageName), ofSpecifier? v = some n →
      ofSpecifier? (v ++ "/" ++ r) = some n := by
  refine ⟨fun v n => text_ofSpecifier?_eq_some_iff, fun n => ?_, fun n => ?_, fun s => exists_text_iff,
    fun s => exists_packageNameOf_iff, fun s d => exists_usageIndex_iff, fun v => ?_, fun v r n h => ?_⟩
  · constructor
    · rintro ⟨v, h⟩
      exact (text_ofSpecifier?_eq_some_iff.1 h).1
    · intro h
      exact ⟨n, text_ofSpecifier?_eq_some_iff.2 ⟨h, .inl rfl⟩⟩
  · rw [text_ofSpecifier?_eq_some_iff]
    exact ⟨fun h => h.1, fun h => ⟨h, .inl rfl⟩⟩
  · cases h : ofSpecifier? v with
    | none => rfl
    | some n => exact ofSpecifier?_eq_some_iff.2 (.inl rfl)
  · -- what follows the name in the specifier is followed by the new segments
    rcases ofSpecifier?_eq_some_iff.1 h with rfl | ⟨behind, rfl⟩
    · exact ofSpecifier?_eq_some_iff.2 (.inr ⟨r, rfl⟩)
    · refine ofSpecifier?_eq_some_iff.2 (.inr ⟨behind ++ "/" ++ r, ?_⟩)
      simp only [String.append_assoc]

/-- A segment more behind a name in a scope and a segment of it. -/
theorem ofSpecifier?_reads_longer :
    ofSpecifier? "@s/t/u" = some ⟨"@s/t", by decide⟩ ∧
    ofSpecifier? ("@s/t/u" ++ "/" ++ "w") = some ⟨"@s/t", by decide⟩ := by
  have h : ofSpecifier? "@s/t/u" = some ⟨"@s/t", by decide⟩ := by decide
  obtain ⟨-, -, -, -, -, -, -, hlonger⟩ := ofSpecifier?_reads_names
  exact ⟨h, hlonger _ _ _ h⟩

end PackageName

end ImportCensus
