/-
ImportCensus/Proofs/Path/Spelling.lean

How components are spelled and read again.

Of the components of a path only the first one can be the root or a dot; the others are names and steps
upwards (`Path.Spellable`).  Such components are those of their plainest spelling, and a path has the same
pieces as the plainest spelling of its components, but for those that stand for nothing.

Main statements: the plainest spelling of components has just these components (`components_ofComponents`)
and just these pieces (`split_ofComponents`), and the pieces of a path that stand for something are those
of its components (`filter_split`).
-/
import ImportCensus.Proofs.Path

namespace ImportCensus

open Text

/-! ### Single components -/

namespace Component

/-- Can the component stand behind others? -/
def IsInner : Component → Prop
  | name s => IsEntryName s
  | parent => True
  | _ => False

variable {c : Component}

theorem componentOf?_toText (h : c.IsInner) : Path.componentOf? c.toText = some c := by
  cases c with
  | name s => exact Path.componentOf?_name h
  | parent => rfl
  | _ => exact h.elim

theorem slash_notMem_toText (h : c.IsInner) : '/' ∉ c.toText := by
  cases c with
  | name s => exact h.no_slash
  | parent => decide
  | _ => exact h.elim

theorem toText_ne_nil (h : c.IsInner) : c.toText ≠ [] := by
  cases c with
  | name s => exact Path.toList_ne h.ne_empty
  | parent => exact List.cons_ne_nil _ _
  | _ => exact h.elim

theorem toText_ne_current (h : c.IsInner) : c.toText ≠ ['.'] := by
  cases c with
  | name s => exact Path.toList_ne h.ne_current
  | parent => decide
  | _ => exact h.elim

/-- A piece between slashes that stands for a component is how the component is written. -/
theorem of_componentOf? {piece : List Char} (hslash : '/' ∉ piece)
    (h : Path.componentOf? piece = some c) : c.IsInner ∧ c.toText = piece := by
  rw [Path.componentOf?] at h
  split at h
  · cases h
  · next hnamed =>
    rw [not_or] at hnamed
    split at h
    · next hparent =>
      cases h
      exact ⟨trivial, hparent.symm⟩
    · next hparent =>
      cases h
      have hne : ∀ other : String, piece ≠ other.toList → String.ofList piece ≠ other := by
        rintro other hother rfl
        exact hother String.toList_ofList.symm
      refine ⟨⟨hne "" hnamed.1, hne "." hnamed.2, hne ".." hparent, ?_⟩, String.toList_ofList⟩
      rw [String.toList_ofList]
      exact hslash

end Component

namespace Path

variable {p : Path} {c : Component} {cs : List Component}

/-! ### Components of paths -/

/-- Can components be those of a path?  Only the first one can be the root or a dot. -/
def Spellable : List Component → Prop
  | [] => True
  | c :: cs => (c = .root ∨ c = .current ∨ c.IsInner) ∧ ∀ c ∈ cs, c.IsInner

theorem isInner_of_mem_filterMap {pieces : List (List Char)} (h : ∀ piece ∈ pieces, '/' ∉ piece)
    (hc : c ∈ pieces.filterMap componentOf?) : c.IsInner := by
  obtain ⟨piece, hpiece, hcomponent⟩ := List.mem_filterMap.1 hc
  exact (Component.of_componentOf? (h piece hpiece) hcomponent).1

theorem spellable_components (p : Path) : Spellable p.components := by
  have hpieces : ∀ piece ∈ split '/' p.text.toList, '/' ∉ piece := fun _ => sep_notMem_of_mem_split
  obtain ⟨first, rest, hsplit⟩ := List.exists_cons_of_ne_nil (split_ne_nil '/' p.text.toList)
  rw [hsplit] at hpieces
  have hrest : ∀ c ∈ rest.filterMap componentOf?, c.IsInner :=
    fun c => isInner_of_mem_filterMap (List.forall_mem_cons.1 hpieces).2
  rw [components, hsplit]
  dsimp only
  split
  · split
    · trivial
    · exact ⟨.inl rfl, hrest⟩
  · split
    · exact ⟨.inr (.inl rfl), hrest⟩
    · have hall : ∀ c ∈ (first :: rest).filterMap componentOf?, c.IsInner :=
        fun c => isInner_of_mem_filterMap hpieces
      cases hcomponents : (first :: rest).filterMap componentOf? with
      | nil => trivial
      | cons c cs =>
        rw [hcomponents, List.forall_mem_cons] at hall
        exact ⟨.inr (.inr hall.1), hall.2⟩

theorem Spellable.of_append {ds : List Component} (h : Spellable (cs ++ ds)) : Spellable cs := by
  cases cs with
  | nil => trivial
  | cons c cs => exact ⟨h.1, fun c hc => h.2 c (List.mem_append_left _ hc)⟩

/-- Behind others, a component is a name or a step upwards. -/
theorem Spellable.isInner (h : Spellable (cs ++ [c])) (hne : cs ≠ []) : c.IsInner := by
  obtain ⟨first, rest, rfl⟩ := List.exists_cons_of_ne_nil hne
  exact h.2 c (by simp)

theorem Spellable.concat (h : Spellable cs) (hc : c.IsInner) : Spellable (cs ++ [c]) := by
  cases cs with
  | nil => exact ⟨.inr (.inr hc), List.forall_mem_nil _⟩
  | cons first cs =>
    refine ⟨h.1, ?_⟩
    intro d hd
    rcases List.mem_append.1 hd with hd | hd
    · exact h.2 d hd
    · rw [List.mem_singleton.1 hd]
      exact hc

theorem Spellable.slash_notMem (h : Spellable cs) : ∀ piece ∈ cs.map Component.toText, '/' ∉ piece := by
  cases cs with
  | nil => exact List.forall_mem_nil _
  | cons c cs =>
    rw [List.map_cons, List.forall_mem_cons]
    refine ⟨?_, ?_⟩
    · rcases h.1 with rfl | rfl | hc
      · decide
      · decide
      · exact Component.slash_notMem_toText hc
    · intro piece hpiece
      obtain ⟨d, hd, rfl⟩ := List.mem_map.1 hpiece
      exact Component.slash_notMem_toText (h.2 d hd)

/-! ### Plainest spellings -/

theorem concat_ne_root (hne : cs ≠ []) (c : Component) : cs ++ [c] ≠ [.root] := by
  intro heq
  have hlength := congrArg List.length heq
  rw [List.length_append] at hlength
  exact hne (List.length_eq_zero_iff.1 (Nat.succ.inj hlength))

theorem toList_ofComponents (h : cs ≠ [.root]) :
    (ofComponents cs).text.toList = Text.join '/' (cs.map Component.toText) := by
  rw [ofComponents.eq_2 _ h, String.toList_ofList]

/-- The plainest spelling of components has these as its pieces. -/
theorem split_ofComponents (h : Spellable cs) (hne : cs ≠ []) (hroot : cs ≠ [.root]) :
    split '/' (ofComponents cs).text.toList = cs.map Component.toText := by
  rw [toList_ofComponents hroot]
  exact split_join (by simpa using hne) h.slash_notMem

theorem filterMap_toText (h : ∀ c ∈ cs, c.IsInner) :
    (cs.map Component.toText).filterMap componentOf? = cs := by
  induction cs with
  | nil => rfl
  | cons c cs ih =>
    obtain ⟨hc, hcs⟩ := List.forall_mem_cons.1 h
    rw [List.map_cons, List.filterMap_cons_some (Component.componentOf?_toText hc), ih hcs]

/-- **The plainest spelling of components has just these components.** -/
theorem components_ofComponents (h : Spellable cs) : (ofComponents cs).components = cs := by
  by_cases hne : cs = []
  · rw [hne]
    rfl
  · by_cases hroot : cs = [.root]
    · rw [hroot]
      rfl
    · rw [components, split_ofComponents h hne hroot]
      obtain ⟨c, cs, rfl⟩ := List.exists_cons_of_ne_nil hne
      have hcs := filterMap_toText h.2
      rw [List.map_cons]
      dsimp only
      rcases h.1 with rfl | rfl | hc
      · -- the root is spelled as an empty piece before others
        have hothers : cs ≠ [] := by
          rintro rfl
          exact hroot rfl
        rw [if_pos (by rfl), if_neg (by simpa using hothers), hcs]
      · rw [if_neg (by decide), if_pos (by rfl), hcs]
      · rw [if_neg (Component.toText_ne_nil hc), if_neg (Component.toText_ne_current hc),
          List.filterMap_cons_some (Component.componentOf?_toText hc), hcs]

theorem text_ofComponents_ne (h : Spellable cs) (hne : cs ≠ []) : (ofComponents cs).text ≠ "" := by
  intro htext
  have hpath : ofComponents cs = ⟨""⟩ := eq_of_toList (by rw [htext])
  have hcomponents := components_ofComponents h
  rw [hpath] at hcomponents
  exact hne hcomponents.symm

/-! ### Pieces that stand for something -/

/-- A piece that stands for nothing is empty or a dot. -/
theorem isSilent_iff_eq {piece : List Char} : isSilent piece = true ↔ piece = [] ∨ piece = ['.'] := by
  rw [isSilent, Option.isNone_iff_eq_none, componentOf?]
  constructor
  · intro h
    by_contra hnot
    rw [if_neg hnot] at h
    split at h <;> cases h
  · exact fun h => if_pos h

theorem map_toText_filterMap {pieces : List (List Char)} (h : ∀ piece ∈ pieces, '/' ∉ piece) :
    (pieces.filterMap componentOf?).map Component.toText = pieces.filter (!isSilent ·) := by
  induction pieces with
  | nil => rfl
  | cons piece rest ih =>
    obtain ⟨hpiece, hrest⟩ := List.forall_mem_cons.1 h
    rw [List.filterMap_cons, List.filter_cons, isSilent]
    cases hcomponent : componentOf? piece with
    | none => exact ih hrest
    | some c =>
      rw [List.map_cons, ih hrest, (Component.of_componentOf? hpiece hcomponent).2]
      rfl

theorem filter_map_toText (h : ∀ c ∈ cs, c.IsInner) :
    (cs.map Component.toText).filter (!isSilent ·) = cs.map Component.toText := by
  rw [List.filter_eq_self]
  intro piece hpiece
  obtain ⟨c, hc, rfl⟩ := List.mem_map.1 hpiece
  rw [isSilent, Component.componentOf?_toText (h c hc)]
  rfl

/-- **The pieces of a path that stand for something are those of its components.** -/
theorem filter_split (p : Path) :
    (split '/' p.text.toList).filter (!isSilent ·)
      = (p.components.map Component.toText).filter (!isSilent ·) := by
  have hpieces : ∀ piece ∈ split '/' p.text.toList, '/' ∉ piece := fun _ => sep_notMem_of_mem_split
  rw [components]
  obtain ⟨first, rest, hsplit⟩ := List.exists_cons_of_ne_nil (split_ne_nil '/' p.text.toList)
  rw [hsplit] at hpieces ⊢
  obtain ⟨-, hrest⟩ := List.forall_mem_cons.1 hpieces
  have hinner : ∀ c ∈ rest.filterMap componentOf?, c.IsInner := fun c => isInner_of_mem_filterMap hrest
  have hinners : ∀ c ∈ (first :: rest).filterMap componentOf?, c.IsInner :=
    fun c => isInner_of_mem_filterMap hpieces
  dsimp only
  split
  · next hfirst =>
    subst hfirst
    rw [List.filter_cons_of_neg (by decide)]
    split
    · next hnil =>
      rw [List.isEmpty_iff.1 hnil]
      rfl
    · rw [List.map_cons, List.filter_cons_of_neg (by decide), filter_map_toText hinner,
        map_toText_filterMap hrest]
  · split
    · next hfirst =>
      subst hfirst
      rw [List.filter_cons_of_neg (by decide), List.map_cons, List.filter_cons_of_neg (by decide),
        filter_map_toText hinner, map_toText_filterMap hrest]
    · rw [filter_map_toText hinners, map_toText_filterMap hpieces]

/-- A path starts with a slash exactly if it starts at the root. -/
theorem head?_text (p : Path) :
    p.text.toList.head? = some '/' ↔ p.components.head? = some .root := by
  cases htext : p.text.toList with
  | nil =>
    rw [components, htext]
    simp [split]
  | cons c r =>
    obtain ⟨piece, pieces, hsplit⟩ := List.exists_cons_of_ne_nil (split_ne_nil '/' r)
    have hpieces : ∀ piece ∈ split '/' p.text.toList, '/' ∉ piece := fun _ => sep_notMem_of_mem_split
    rw [htext] at hpieces
    rw [components, htext]
    by_cases hc : c = '/'
    · subst hc
      have hslash : split '/' ('/' :: r) = [] :: piece :: pieces := by
        rw [split, hsplit]
        rfl
      rw [hslash]
      exact iff_of_true rfl rfl
    · have hname : split '/' (c :: r) = (c :: piece) :: pieces := by
        rw [split, hsplit]
        simp [hc]
      rw [hname] at hpieces ⊢
      refine iff_of_false (by simpa using hc) ?_
      intro hroot
      dsimp only at hroot
      rw [if_neg (List.cons_ne_nil _ _)] at hroot
      split at hroot
      · cases hroot
      · exact isInner_of_mem_filterMap hpieces (List.mem_of_mem_head? hroot)

/-- Joined pieces are the first one, and each of the others behind a slash. -/
theorem join_cons (first : List Char) (rest : List (List Char)) :
    Text.join '/' (first :: rest) = first ++ rest.flatMap ('/' :: ·) := by
  induction rest generalizing first with
  | nil => exact (List.append_nil first).symm
  | cons next rest ih =>
    rw [Text.join.eq_3 _ _ _ (List.cons_ne_nil next rest), ih]
    rfl

theorem join_concat {pieces : List (List Char)} (hne : pieces ≠ []) (piece : List Char) :
    Text.join '/' (pieces ++ [piece]) = Text.join '/' pieces ++ '/' :: piece := by
  obtain ⟨first, rest, rfl⟩ := List.exists_cons_of_ne_nil hne
  rw [List.cons_append, join_cons, join_cons, List.flatMap_append, List.flatMap_singleton,
    List.append_assoc]

/-- A further component is spelled behind the others. -/
theorem exists_text_concat (hne : cs ≠ []) (c : Component) :
    ∃ tail, (ofComponents (cs ++ [c])).text.toList = (ofComponents cs).text.toList ++ tail := by
  rw [toList_ofComponents (concat_ne_root hne c), List.map_append, List.map_singleton]
  by_cases hcs : cs = [.root]
  · subst hcs
    exact ⟨c.toText, rfl⟩
  · rw [toList_ofComponents hcs, join_concat (by simpa using hne)]
    exact ⟨_, rfl⟩

/-! ### The last name -/

variable {name : String}

theorem components_of_fileName? (h : p.fileName? = some name) :
    p.components = p.components.dropLast ++ [.name name] := by
  rw [fileName?] at h
  split at h
  · next s hlast =>
    cases h
    obtain ⟨front, hfront⟩ := List.getLast?_eq_some_iff.1 hlast
    rw [hfront, List.dropLast_concat]
  · cases h

theorem isEntryName_of_fileName? (h : p.fileName? = some name) : IsEntryName name := by
  have hspellable := spellable_components p
  have hcomponents := components_of_fileName? h
  cases hcs : p.components.dropLast with
  | nil =>
    rw [hcomponents, hcs] at hspellable
    rcases hspellable.1 with hroot | hcurrent | hname
    · cases hroot
    · cases hcurrent
    · exact hname
  | cons c cs =>
    rw [hcomponents, hcs] at hspellable
    exact hspellable.2 (.name name) (by simp)

/-- The pieces of a path around its last name: those before it stand for the other components, and those
behind it for nothing. -/
theorem exists_split_of_fileName? (h : p.fileName? = some name) :
    ∃ front ends, split '/' p.text.toList = front ++ name.toList :: ends ∧
      (∀ piece ∈ ends, isSilent piece = true) ∧
      front.filter (!isSilent ·)
        = (p.components.dropLast.map Component.toText).filter (!isSilent ·) := by
  have hpieces := filter_split p
  have hname : isSilent name.toList = false := by
    rw [isSilent, componentOf?_name (isEntryName_of_fileName? h)]
    rfl
  rw [components_of_fileName? h, List.map_append, List.filter_append, List.map_singleton,
    Component.toText, List.filter_cons_of_pos (by simp [hname])] at hpieces
  obtain ⟨front, back, hsplit, hfront, hback⟩ := List.filter_eq_append_iff.1 hpieces
  obtain ⟨before, ends, rfl, hbefore, -, hends⟩ := List.filter_eq_cons_iff.1 hback
  refine ⟨front ++ before, ends, by rw [hsplit, List.append_assoc], ?_, ?_⟩
  · simpa using hends
  · have hnone : before.filter (!isSilent ·) = [] := List.filter_eq_nil_iff.2 hbefore
    rw [List.filter_append, hnone, List.append_nil, hfront]

/-- Does a path end in this name, with nothing behind it? -/
structure EndsIn (p : Path) (name : String) : Prop where
  fileName : p.fileName? = some name
  last : (split '/' p.text.toList).getLast? = some name.toList

/-- The pieces before the last name stand for the other components. -/
theorem EndsIn.exists_split (h : p.EndsIn name) :
    ∃ front, split '/' p.text.toList = front ++ [name.toList] ∧
      front.filter (!isSilent ·)
        = (p.components.dropLast.map Component.toText).filter (!isSilent ·) := by
  obtain ⟨front, ends, hsplit, hends, hfront⟩ := exists_split_of_fileName? h.fileName
  rcases List.eq_nil_or_concat' ends with rfl | ⟨others, piece, rfl⟩
  · exact ⟨front, hsplit, hfront⟩
  · -- a piece behind the name would be the last one
    have hlast := h.last
    rw [hsplit, ← List.cons_append, ← List.append_assoc, List.getLast?_concat] at hlast
    have hsilent := hends piece (by simp)
    rw [Option.some.inj hlast, isSilent, componentOf?_name (isEntryName_of_fileName? h.fileName)]
      at hsilent
    cases hsilent

/-- A path with a last name ends in it unless it ends in slashes or dots. -/
theorem endsIn_of_endsInName (h : p.fileName? = some name) (hname : p.endsInName = true)
    (hslash : p.endsInSlash = false) : p.EndsIn name := by
  obtain ⟨front, ends, hsplit, hends, -⟩ := exists_split_of_fileName? h
  refine ⟨h, ?_⟩
  rcases List.eq_nil_or_concat' ends with rfl | ⟨others, piece, rfl⟩
  · rw [hsplit, List.getLast?_concat]
  · exfalso
    have hpieces : split '/' p.text.toList = (front ++ name.toList :: others) ++ [piece] := by
      rw [hsplit, List.append_assoc]
      rfl
    rcases isSilent_iff_eq.1 (hends piece (by simp)) with rfl | rfl
    · -- behind an empty last piece there is nothing but the slash before it
      have htext := join_split '/' p.text.toList
      rw [hpieces, join_concat (by simp)] at htext
      rw [endsInSlash, ← htext, List.getLast?_concat] at hslash
      cases hslash
    · rw [endsInName, hpieces, List.filter_append, List.filter_cons_of_pos (by rfl), List.filter_nil,
        List.getLast?_concat] at hname
      cases hname

theorem EndsIn.endsInName (h : p.EndsIn name) : p.endsInName = true := by
  have hname := isEntryName_of_fileName? h.fileName
  obtain ⟨front, hsplit, -⟩ := h.exists_split
  have hempty : name.toList ≠ [] := toList_ne hname.ne_empty
  have hcurrent : name.toList ≠ ['.'] := toList_ne hname.ne_current
  have hparent : name.toList ≠ ['.', '.'] := toList_ne hname.ne_parent
  rw [Path.endsInName, hsplit, List.filter_append, List.filter_cons_of_pos (by simp [hempty]),
    List.filter_nil, List.getLast?_concat]
  simp [hcurrent, hparent]

theorem EndsIn.endsInSlash (h : p.EndsIn name) : p.endsInSlash = false := by
  have hname := isEntryName_of_fileName? h.fileName
  obtain ⟨front, hsplit, -⟩ := h.exists_split
  obtain ⟨before, ch, hlast⟩ :=
    (List.eq_nil_or_concat' name.toList).resolve_left (toList_ne hname.ne_empty)
  have hch : ch ≠ '/' := by
    rintro rfl
    apply hname.no_slash
    rw [hlast]
    simp
  have htext := join_split '/' p.text.toList
  have hend : p.text.toList.getLast? = some ch := by
    rw [← htext, hsplit]
    cases front with
    | nil => rw [List.nil_append, Text.join, hlast, List.getLast?_concat]
    | cons first rest =>
      rw [join_concat (List.cons_ne_nil _ _), hlast, ← List.cons_append, ← List.append_assoc,
        List.getLast?_concat]
  rw [Path.endsInSlash, hend]
  simpa using hch

theorem withoutSlashes_eq_self (h : p.endsInSlash = false) : p.withoutSlashes = p := by
  rw [withoutSlashes]
  split
  · rfl
  · next c r htext =>
    rw [endsInSlash, htext] at h
    have hkept : r.reverse.dropWhile (· == '/') = r.reverse := by
      rcases List.eq_nil_or_concat' r with rfl | ⟨front, last, rfl⟩
      · rfl
      · rw [← List.cons_append, List.getLast?_concat] at h
        rw [List.reverse_append, List.reverse_singleton, List.singleton_append,
          List.dropWhile_cons_of_neg (by simpa using h)]
    apply eq_of_toList
    rw [hkept, List.reverse_reverse, String.toList_ofList, htext]

/-! ### Changing the extension -/

theorem mem_of_mem_stem {ch : Char} (h : ch ∈ (stem name).toList) : ch ∈ name.toList := by
  rw [stem] at h
  split at h
  · exact h
  · exact h
  · next dot before _ hback =>
    rw [String.toList_ofList, List.mem_reverse] at h
    have hsuffix : dot :: before <:+ name.toList.reverse := by
      rw [← hback]
      exact List.dropWhile_suffix _
    exact List.mem_reverse.1 (hsuffix.subset (List.mem_cons_of_mem dot h))

/-- The part before an extension is found again. -/
theorem stem_append {front extension : String} (hfront : front ≠ "") (h : '.' ∉ extension.toList) :
    stem (front ++ "." ++ extension) = front := by
  have hreverse : (front ++ "." ++ extension).toList.reverse
      = extension.toList.reverse ++ '.' :: front.toList.reverse := by
    simp
  have hback : ((front ++ "." ++ extension).toList.reverse.dropWhile (· != '.'))
      = '.' :: front.toList.reverse := by
    rw [hreverse, List.dropWhile_append_of_pos]
    · rfl
    · intro ch hch
      have hne : ch ≠ '.' := by
        rintro rfl
        exact h (List.mem_reverse.1 hch)
      simpa using hne
  have hne : front.toList.reverse ≠ [] := by simpa using toList_ne hfront
  obtain ⟨last, rest, hlast⟩ := List.exists_cons_of_ne_nil hne
  rw [stem, hback, hlast]
  show String.ofList (last :: rest).reverse = front
  rw [← hlast, List.reverse_reverse, String.ofList_toList]

/-- A name with another extension is a name, unless the extension is all dots. -/
theorem isEntryName_withExtension {extension : String} (hname : IsEntryName name)
    (hslash : '/' ∉ extension.toList) {ch : Char} (hch : ch ∈ extension.toList) (hdot : ch ≠ '.') :
    IsEntryName (stem name ++ "." ++ extension) := by
  have hmem : ch ∈ (stem name ++ "." ++ extension).toList := by simp [hch]
  refine ⟨?_, ?_, ?_, ?_⟩
  · intro heq
    rw [heq] at hmem
    cases hmem
  · intro heq
    rw [heq] at hmem
    simp [hdot] at hmem
  · intro heq
    rw [heq] at hmem
    simp [hdot] at hmem
  · intro hmem'
    simp only [String.toList_append, List.mem_append] at hmem'
    rcases hmem' with (hstem | hpoint) | hext
    · exact hname.no_slash (mem_of_mem_stem hstem)
    · exact absurd hpoint (by decide)
    · exact hslash hext

/-- The plainest spelling of components ends in the last one, if that is a name. -/
theorem endsIn_ofComponents (h : Spellable (cs ++ [.name name])) :
    (ofComponents (cs ++ [.name name])).EndsIn name := by
  have hroot : cs ++ [.name name] ≠ [.root] := by
    intro heq
    have hlast := congrArg List.getLast? heq
    rw [List.getLast?_concat] at hlast
    cases hlast
  refine ⟨?_, ?_⟩
  · rw [fileName?, components_ofComponents h, List.getLast?_concat]
  · rw [split_ofComponents h (by simp) hroot, List.map_append, List.map_singleton,
      List.getLast?_concat]
    rfl

/-- The path with another file name. -/
theorem endsIn_withExtension {extension : String} (h : p.fileName? = some name)
    (hname : IsEntryName (stem name ++ "." ++ extension)) :
    (p.withExtension extension).components
        = p.components.dropLast ++ [.name (stem name ++ "." ++ extension)] ∧
      (p.withExtension extension).EndsIn (stem name ++ "." ++ extension) := by
  have hspellable : Spellable (p.components.dropLast ++ [.name (stem name ++ "." ++ extension)]) := by
    have hall := spellable_components p
    rw [components_of_fileName? h] at hall
    exact hall.of_append.concat hname
  have hpath : p.withExtension extension
      = ofComponents (p.components.dropLast ++ [.name (stem name ++ "." ++ extension)]) := by
    rw [withExtension, h]
  rw [hpath]
  exact ⟨components_ofComponents hspellable, endsIn_ofComponents hspellable⟩

end Path

end ImportCensus
