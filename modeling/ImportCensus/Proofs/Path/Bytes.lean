/-
ImportCensus/Proofs/Path/Bytes.lean

Paths that are texts, as the system keeps them.

In the bytes of a text, slashes and dots are the only bytes with the numbers of these characters.  So a text
with a character for each of its bytes (`bytewise`) is cut where the text is cut, into the bytes of the
pieces, and these stand for the same kinds of components.  What is left of such a path behind another one are
the bytes of what is left of the text.

Main statements: a path that is a text is shown as the text (`RawPath.displayFrom_ofPath`), and it is that of
a source file if its last name is one (`isSourcePath_eq`).
-/
import ImportCensus.Path.Bytes
import ImportCensus.Proofs.Path
import ImportCensus.Proofs.Text.Utf8
import ImportCensus.SourceFile

namespace ImportCensus

open Text

namespace RawPath

/-! ### A character for each byte -/

variable {c d : Char} {cs ds piece : List Char} {pieces : List (List Char)}

/-- The characters for the bytes of a character. -/
def charsOf (c : Char) : List Char :=
  (String.utf8EncodeChar c).map charOf

/-- The bytes of a text, with a character for each. -/
def bytewise (cs : List Char) : List Char :=
  (encode cs).map charOf

theorem toNat_charOf (b : UInt8) : (charOf b).toNat = b.toNat := by
  have hvalid : b.toNat.isValidChar := .inl (Nat.lt_trans b.toNat_lt (by decide))
  rw [charOf, Char.ofNat, dif_pos hvalid]
  rfl

@[simp] theorem byteOf_charOf (b : UInt8) : byteOf (charOf b) = b := by
  rw [byteOf, toNat_charOf, UInt8.ofNat_toNat]

theorem charOf_injective : Function.Injective charOf :=
  Function.LeftInverse.injective byteOf_charOf

@[simp] theorem bytewise_nil : bytewise [] = [] := rfl

theorem bytewise_cons (c : Char) (cs : List Char) : bytewise (c :: cs) = charsOf c ++ bytewise cs := by
  rw [bytewise, encode_cons, List.map_append]
  rfl

theorem bytewise_append (cs ds : List Char) : bytewise (cs ++ ds) = bytewise cs ++ bytewise ds := by
  rw [bytewise, encode_append, List.map_append]
  rfl

theorem map_byteOf_bytewise (cs : List Char) : (bytewise cs).map byteOf = encode cs := by
  have hback : byteOf ∘ charOf = id := funext byteOf_charOf
  rw [bytewise, List.map_map, hback, List.map_id]

/-- Different texts have different bytes. -/
theorem bytewise_injective : Function.Injective bytewise := by
  intro cs ds h
  have hbytes : encode cs = encode ds := charOf_injective.list_map h
  have hread := decode?_encode cs
  rw [hbytes, decode?_encode ds] at hread
  exact (Option.some.inj hread).symm

/-- A character of ASCII is its only byte. -/
theorem charsOf_of_lt (h : c.toNat < 128) : charsOf c = [c] := by
  have hbyte : String.utf8EncodeChar c = [UInt8.ofNat c.toNat] := by
    rw [String.utf8EncodeChar.eq_1]
    exact if_pos (Nat.le_of_lt_succ h)
  rw [charsOf, hbyte, List.map_singleton, charOf, toNat_ofNat_of_lt (Nat.lt_trans h (by decide))]
  rw [Char.ofNat_toNat]

/-- No byte of another character has the number of one of ASCII. -/
theorem le_of_mem_charsOf (h : 128 ≤ c.toNat) (hd : d ∈ charsOf c) : 128 ≤ d.toNat := by
  obtain ⟨b, hb, rfl⟩ := List.mem_map.1 hd
  rw [toNat_charOf]
  rw [String.utf8EncodeChar.eq_1] at hb
  have hvalue : 128 ≤ c.val.toNat := h
  generalize c.val.toNat = v at *
  rw [if_neg (by omega)] at hb
  split_ifs at hb <;>
  · simp only [List.mem_cons, List.not_mem_nil, or_false] at hb
    rcases hb with rfl | rfl | rfl | rfl <;> simp [UInt8.toNat_ofNat'] <;> omega

theorem eq_of_mem_charsOf (hd : d ∈ charsOf c) (hlt : d.toNat < 128) : d = c := by
  by_cases h : c.toNat < 128
  · rw [charsOf_of_lt h] at hd
    exact List.mem_singleton.1 hd
  · exact absurd (le_of_mem_charsOf (Nat.le_of_not_lt h) hd) (Nat.not_le.2 hlt)

/-! ### Pieces -/

theorem split_append_of_notMem {sep : Char} {first : List Char} {rest : List (List Char)}
    (h : sep ∉ cs) (hds : split sep ds = first :: rest) : split sep (cs ++ ds) = (cs ++ first) :: rest := by
  induction cs with
  | nil => exact hds
  | cons c cs ih =>
    rw [List.mem_cons, not_or] at h
    rw [List.cons_append, split, ih h.2]
    exact if_neg (Ne.symm h.1)

/-- The bytes of a text are cut where the text is cut. -/
theorem split_bytewise (cs : List Char) : split '/' (bytewise cs) = (split '/' cs).map bytewise := by
  induction cs with
  | nil => rfl
  | cons c cs ih =>
    obtain ⟨first, rest, hcs⟩ := List.exists_cons_of_ne_nil (split_ne_nil '/' cs)
    rw [hcs, List.map_cons] at ih
    rw [bytewise_cons, split, hcs]
    by_cases hc : c = '/'
    · have hall : split '/' ([] ++ '/' :: bytewise cs) = split '/' [] ++ split '/' (bytewise cs) :=
        split_append_sep [] (bytewise cs)
      rw [List.nil_append, ih] at hall
      rw [hc, charsOf_of_lt (by decide), List.singleton_append, hall]
      rfl
    · have hslash : '/' ∉ charsOf c := fun h => hc (eq_of_mem_charsOf h (by decide)).symm
      rw [split_append_of_notMem hslash ih]
      simp only [hc, if_false, List.map_cons, bytewise_cons]

theorem join_map_bytewise (pieces : List (List Char)) :
    join '/' (pieces.map bytewise) = bytewise (join '/' pieces) := by
  induction pieces with
  | nil => rfl
  | cons piece r ih =>
    cases r with
    | nil => rfl
    | cons next r =>
      have hjoin : join '/' (piece :: next :: r) = piece ++ '/' :: join '/' (next :: r) := rfl
      rw [hjoin, bytewise_append, bytewise_cons, charsOf_of_lt (by decide), ← ih]
      rfl

/-- A piece of ASCII is all its bytes, and no other piece has them. -/
theorem bytewise_eq_iff (h : ∀ c ∈ cs, c.toNat < 128) : bytewise piece = cs ↔ piece = cs := by
  have hself : bytewise cs = cs := by
    induction cs with
    | nil => rfl
    | cons c cs ih =>
      obtain ⟨hc, hcs⟩ := List.forall_mem_cons.1 h
      rw [bytewise_cons, charsOf_of_lt hc, ih hcs]
      rfl
  conv_lhs => rw [← hself]
  exact bytewise_injective.eq_iff

theorem bytewise_eq_nil : bytewise piece = [] ↔ piece = [] :=
  bytewise_eq_iff (by simp)

theorem bytewise_eq_current : bytewise piece = ['.'] ↔ piece = ['.'] :=
  bytewise_eq_iff (by simp)

theorem bytewise_eq_parent : bytewise piece = ['.', '.'] ↔ piece = ['.', '.'] :=
  bytewise_eq_iff (by simp)

/-! ### Components -/

/-- The component with the bytes of its name. -/
def bytewiseComponent : Component → Component
  | .name s => .name (String.ofList (bytewise s.toList))
  | c => c

theorem bytewiseComponent_injective : Function.Injective bytewiseComponent := by
  intro a b h
  cases a with
  | name s =>
    cases b with
    | name t =>
      have hbytes : bytewise s.toList = bytewise t.toList := by
        have htext := congrArg String.toList (Component.name.inj h)
        rwa [String.toList_ofList, String.toList_ofList] at htext
      rw [String.ext (bytewise_injective hbytes)]
    | _ => cases h
  | _ =>
    cases b with
    | name t => cases h
    | _ => first | rfl | cases h

theorem componentOf?_bytewise (piece : List Char) :
    Path.componentOf? (bytewise piece) = (Path.componentOf? piece).map bytewiseComponent := by
  simp only [Path.componentOf?, bytewise_eq_nil, bytewise_eq_current, bytewise_eq_parent]
  split
  · rfl
  · split
    · rfl
    · rw [Option.map_some, bytewiseComponent, String.toList_ofList]

@[simp] theorem isSilent_bytewise (piece : List Char) : Path.isSilent (bytewise piece) = Path.isSilent piece := by
  rw [Path.isSilent, Path.isSilent, componentOf?_bytewise, Option.isNone_map]

theorem filterMap_bytewise (pieces : List (List Char)) :
    (pieces.map bytewise).filterMap Path.componentOf?
      = (pieces.filterMap Path.componentOf?).map bytewiseComponent := by
  rw [List.filterMap_map, List.map_filterMap]
  exact List.filterMap_congr fun piece _ => componentOf?_bytewise piece

theorem toList_spelled_ofPath (p : Path) : (ofPath p).spelled.text.toList = bytewise p.text.toList :=
  String.toList_ofList

/-- The components of a text are those of its bytes. -/
theorem components_spelled (p : Path) :
    (ofPath p).spelled.components = p.components.map bytewiseComponent := by
  obtain ⟨first, rest, hp⟩ := List.exists_cons_of_ne_nil (split_ne_nil '/' p.text.toList)
  rw [Path.components, toList_spelled_ofPath, split_bytewise, Path.components, hp, List.map_cons]
  simp only [bytewise_eq_nil, bytewise_eq_current, List.isEmpty_map]
  split
  · split
    · rfl
    · rw [filterMap_bytewise]
      rfl
  · split
    · rw [filterMap_bytewise]
      rfl
    · rw [← List.map_cons, filterMap_bytewise]

/-! ### What is left behind a directory -/

theorem dropPieces_bytewise (n : ℕ) (pieces : List (List Char)) :
    Path.dropPieces n (pieces.map bytewise) = (Path.dropPieces n pieces).map bytewise := by
  fun_induction Path.dropPieces n pieces with
  | case1 => rw [Path.dropPieces]
  | case2 => rfl
  | case3 n piece pieces hsilent ih =>
    rw [List.map_cons, Path.dropPieces, isSilent_bytewise, if_pos hsilent, ih]
  | case4 n piece pieces hpiece ih =>
    rw [List.map_cons, Path.dropPieces, isSilent_bytewise, if_neg hpiece, ih]

theorem dropWhile_bytewise (pieces : List (List Char)) :
    (pieces.map bytewise).dropWhile Path.isSilent = (pieces.dropWhile Path.isSilent).map bytewise := by
  rw [List.dropWhile_map]
  exact congrArg (fun f => (pieces.dropWhile f).map bytewise) (funext isSilent_bytewise)

theorem trimRight_bytewise (pieces : List (List Char)) :
    Path.trimRight (pieces.map bytewise) = (Path.trimRight pieces).map bytewise := by
  rw [Path.trimRight, ← List.map_reverse, dropWhile_bytewise, ← List.map_reverse]
  rfl

theorem piecesBehind_bytewise (n : ℕ) (p : Path) :
    Path.piecesBehind n (ofPath p).spelled = (Path.piecesBehind n p).map bytewise := by
  obtain ⟨first, rest, hp⟩ := List.exists_cons_of_ne_nil (split_ne_nil '/' p.text.toList)
  unfold Path.piecesBehind
  rw [toList_spelled_ofPath, split_bytewise, hp, List.map_cons]
  cases n with
  | zero => rfl
  | succ n =>
    simp only [bytewise_eq_nil, bytewise_eq_current]
    split
    · exact dropPieces_bytewise n rest
    · exact dropPieces_bytewise (n + 1) (first :: rest)

theorem spelled_ofPath (p : Path) : (ofPath p).spelled = ⟨String.ofList (bytewise p.text.toList)⟩ :=
  rfl

theorem trimmed_spelled (p : Path) : (ofPath p).spelled.trimmed = (ofPath p.trimmed).spelled := by
  obtain ⟨first, rest, hp⟩ := List.exists_cons_of_ne_nil (split_ne_nil '/' p.text.toList)
  have hjoin : ∀ pieces : List (List Char),
      (⟨String.ofList (join '/' (pieces.map bytewise))⟩ : Path)
        = (ofPath ⟨String.ofList (join '/' pieces)⟩).spelled := by
    intro pieces
    rw [spelled_ofPath, String.toList_ofList, join_map_bytewise]
  unfold Path.trimmed
  rw [toList_spelled_ofPath, split_bytewise, hp, List.map_cons]
  dsimp only
  rw [trimRight_bytewise]
  cases first with
  | nil =>
    cases Path.trimRight rest with
    | nil =>
      cases rest with
      | nil => rfl
      | cons =>
        show (⟨"/"⟩ : Path) = (ofPath ⟨"/"⟩).spelled
        decide
    | cons piece pieces => exact hjoin ([] :: piece :: pieces)
  | cons c first =>
    -- a first piece that is not empty has bytes
    obtain ⟨d, ds, hbytes⟩ := List.exists_cons_of_ne_nil (mt bytewise_eq_nil.1 (List.cons_ne_nil c first))
    have hall := hjoin ((c :: first) :: Path.trimRight rest)
    rw [List.map_cons, hbytes] at hall
    rw [hbytes]
    exact hall

/-- **What is left of the bytes of a path are the bytes of what is left of it.** -/
theorem relativeTo?_ofPath (p base : Path) :
    (ofPath p).relativeTo? (ofPath base) = (p.relativeTo? base).map ofPath := by
  have hprefix : (p.components.map bytewiseComponent).take base.components.length
      = base.components.map bytewiseComponent ↔ p.components.take base.components.length = base.components := by
    rw [← List.map_take]
    exact (List.map_injective_iff.2 bytewiseComponent_injective).eq_iff
  have hback : ∀ q : Path, ofSpelled (ofPath q).spelled = ofPath q := by
    intro q
    rw [ofSpelled, toList_spelled_ofPath, map_byteOf_bytewise]
    rfl
  have hspelled : (ofPath p).spelled.relativeTo? (ofPath base).spelled
      = (p.relativeTo? base).map fun q => (ofPath q).spelled := by
    unfold Path.relativeTo?
    simp only [components_spelled, List.length_map, hprefix]
    split
    · split
      · rw [trimmed_spelled]
        rfl
      · rw [piecesBehind_bytewise, dropWhile_bytewise, trimRight_bytewise, join_map_bytewise, Option.map_some,
          spelled_ofPath, String.toList_ofList]
    · rfl
  rw [relativeTo?, hspelled, Option.map_map]
  exact congrArg (fun f => (p.relativeTo? base).map f) (funext hback)

/-! ### Paths as they are shown, and their names -/

/-- A text is shown as it is. -/
theorem display_ofPath (p : Path) : (ofPath p).display = p.text := by
  rw [display, ofPath, decodeLossy_encode, String.ofList_toList]

/-- **A path that is a text is shown as the text that is seen from the directory.** -/
theorem displayFrom_ofPath (root : Option Path) (p : Path) :
    (ofPath p).displayFrom (root.map ofPath) = ((root.bind p.relativeTo?).getD p).text := by
  have hbind : (root.map ofPath).bind (ofPath p).relativeTo? = (root.bind p.relativeTo?).map ofPath := by
    cases root with
    | none => rfl
    | some base => rw [Option.map_some, Option.bind_some, Option.bind_some, relativeTo?_ofPath]
  rw [displayFrom, hbind, Option.getD_map, display_ofPath]

/-- The last name of a text is that of its bytes. -/
theorem fileName?_ofPath (p : Path) :
    (ofPath p).fileName? = p.fileName?.map fun name => encode name.toList := by
  rw [fileName?, Path.fileName?, components_spelled, List.getLast?_map, Path.fileName?]
  cases p.components.getLast? with
  | none => rfl
  | some c =>
    cases c with
    | name s =>
      rw [Option.map_some, bytewiseComponent, Option.map_some, String.toList_ofList, map_byteOf_bytewise,
        Option.map_some]
    | _ => rfl

end RawPath

/-- The bytes of a name are those of the name of a source file if it is one. -/
theorem isSourceBytes_encode (name : String) : isSourceBytes (encode name.toList) = isSourceName name := by
  rw [isSourceBytes, decode?_encode, Option.any_some, String.ofList_toList]

/-- **A path that is a text is that of a source file if its last name is one.** -/
theorem isSourcePath_eq (p : Path) : isSourcePath p = p.fileName?.any isSourceName := by
  rw [isSourcePath, RawPath.isSource, RawPath.fileName?_ofPath]
  cases p.fileName? with
  | none => rfl
  | some name => rw [Option.map_some, Option.any_some, Option.any_some, isSourceBytes_encode]

end ImportCensus
