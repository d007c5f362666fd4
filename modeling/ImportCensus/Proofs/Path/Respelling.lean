/-
ImportCensus/Proofs/Path/Respelling.lean

Different spellings of one path.

What stands behind a slash adds its own components to those of the text up to the slash, so a piece that
counts for nothing can be taken out of a spelling, wherever it stands.  Four rules do so (`Respells`): two for
a piece between slashes, and two for a piece at the end, where the slash of the root has to stay.

The rules keep the components.  Conversely they lead from any spelling to the plainest spelling of its
components: the pieces are gone through from the left, behind a text that only grows by pieces that count.
Two spellings with the same components meet there, so that there is nothing else by which spellings of one
path differ; a step upwards, above all, is never taken out together with the name before it.

Main statements: two spellings have the same components exactly if the rules lead from one to the other
(`components_eq_iff_eqvGen`), and the last name of a path is found in its text
(`fileName?_eq_some_iff`).
-/
import ImportCensus.Proofs.Path.Spelling
import Mathlib.Logic.Relation

namespace ImportCensus

open Text Relation

namespace Path

variable {p q : Path} {s e name : String} {piece : List Char} {pieces : List (List Char)}

/-! ### Endings that stand for nothing -/

/-- Is a text made of slashes, some of them with a dot behind? -/
inductive IsEnding : String → Prop
  | nil : IsEnding ""
  | slash {e : String} (h : IsEnding e) : IsEnding ("/" ++ e)
  | dot {e : String} (h : IsEnding e) : IsEnding ("/." ++ e)

theorem isEnding_of_slashes {cs : List Char} (h : ∀ c ∈ cs, c = '/') : IsEnding (String.ofList cs) := by
  induction cs with
  | nil => exact .nil
  | cons c cs ih =>
    obtain ⟨rfl, hcs⟩ := List.forall_mem_cons.1 h
    rw [← List.singleton_append, String.ofList_append]
    exact .slash (ih hcs)

/-- Pieces that stand for nothing are spelled as such an ending. -/
theorem isEnding_of_isSilent (h : ∀ piece ∈ pieces, isSilent piece = true) :
    IsEnding (String.ofList (pieces.flatMap ('/' :: ·))) := by
  induction pieces with
  | nil => exact .nil
  | cons piece rest ih =>
    obtain ⟨hpiece, hrest⟩ := List.forall_mem_cons.1 h
    rw [List.flatMap_cons, String.ofList_append]
    rcases isSilent_iff_eq.1 hpiece with rfl | rfl
    · exact .slash (ih hrest)
    · exact .dot (ih hrest)

theorem components_slash_dot (s : String) : components ⟨s ++ "/."⟩ = components ⟨s ++ "/"⟩ := by
  have htext : s ++ "/." = s ++ "/" ++ "." := by
    rw [String.append_assoc]
    rfl
  rw [htext, components_append_slash]
  exact List.append_nil _

theorem components_slash_parent (s : String) :
    components ⟨s ++ "/.."⟩ = components ⟨s ++ "/"⟩ ++ [.parent] := by
  have htext : s ++ "/.." = s ++ "/" ++ ".." := by
    rw [String.append_assoc]
    rfl
  rw [htext, components_append_slash]
  rfl

theorem components_append_ending (hs : s ≠ "") (h : IsEnding e) :
    components ⟨s ++ e⟩ = components ⟨s⟩ := by
  -- the text before the rest of the ending grows, so that it is general in the induction
  induction h generalizing s with
  | nil => rw [String.append_empty]
  | slash h ih => rw [← String.append_assoc, ih (by simp), components_slash hs]
  | dot h ih => rw [← String.append_assoc, ih (by simp), components_slash_dot, components_slash hs]

/-- An ending does not change the last name, even if there is nothing before it. -/
theorem fileName?_append_ending (s : String) (h : IsEnding e) :
    fileName? ⟨s ++ e⟩ = fileName? ⟨s⟩ := by
  by_cases hs : s = ""
  · -- behind the empty path the first slash is the root, which is no name either
    subst hs
    rw [String.empty_append]
    cases h with
    | nil => rfl
    | slash h =>
      rw [fileName?, components_append_ending (by decide) h]
      rfl
    | dot h =>
      rw [fileName?, components_append_ending (by decide) h]
      rfl
  · rw [fileName?, fileName?, components_append_ending hs h]

/-! ### The last name in the text -/

/-- Can a last component follow: is there nothing before it, or a slash? -/
def IsFront (front : String) : Prop :=
  front = "" ∨ ∃ text, front = text ++ "/"

/-- Does a path end in this name, if slashes and dots behind it are left out? -/
def HasLastName (p : Path) (name : String) : Prop :=
  ∃ front ending, p.text = front ++ name ++ ending ∧ IsFront front ∧ IsEntryName name ∧ IsEnding ending

theorem fileName?_name {front : String} (hfront : IsFront front) (hname : IsEntryName name) :
    fileName? ⟨front ++ name⟩ = some name := by
  rcases hfront with rfl | ⟨text, rfl⟩
  · rw [String.empty_append, fileName?, components_name hname]
    rfl
  · rw [fileName?, components_slash_name hname, List.getLast?_concat]

theorem fileName?_parent {front : String} (hfront : IsFront front) : fileName? ⟨front ++ ".."⟩ = none := by
  rcases hfront with rfl | ⟨text, rfl⟩
  · rfl
  · have htext : text ++ "/" ++ ".." = text ++ "/.." := by
      rw [String.append_assoc]
      rfl
    rw [htext, fileName?, components_slash_parent, List.getLast?_concat]

/-- The last name is the one behind which there is nothing but slashes and dots. -/
theorem fileName?_eq_some_iff : p.fileName? = some name ↔ p.HasLastName name := by
  constructor
  · intro h
    obtain ⟨front, ends, hsplit, hends, -⟩ := exists_split_of_fileName? h
    have hjoin := join_split '/' p.text.toList
    have hname := isEntryName_of_fileName? h
    have hending := isEnding_of_isSilent hends
    cases front with
    | nil =>
      refine ⟨"", _, ?_, .inl rfl, hname, hending⟩
      apply String.ext
      rw [← hjoin, hsplit, List.nil_append, join_cons]
      simp
    | cons first rest =>
      refine ⟨String.ofList (first ++ rest.flatMap ('/' :: ·)) ++ "/", _, ?_, .inr ⟨_, rfl⟩, hname, hending⟩
      apply String.ext
      rw [← hjoin, hsplit, List.cons_append, join_cons]
      simp
  · rintro ⟨front, ending, htext, hfront, hname, hending⟩
    have hp : p = ⟨front ++ name ++ ending⟩ := eq_of_toList (congrArg String.toList htext)
    rw [hp, fileName?_append_ending _ hending, fileName?_name hfront hname]

/-! ### Rules for spellings -/

/-- Is the second spelling the first one without a piece that counts for nothing? -/
inductive Respells : Path → Path → Prop
  | slashes (s t : String) : Respells ⟨s ++ "//" ++ t⟩ ⟨s ++ "/" ++ t⟩
  | dot (s t : String) : Respells ⟨s ++ "/./" ++ t⟩ ⟨s ++ "/" ++ t⟩
  | lastSlash (s : String) (h : s ≠ "") : Respells ⟨s ++ "/"⟩ ⟨s⟩
  | lastDot (s : String) : Respells ⟨s ++ "/."⟩ ⟨s ++ "/"⟩

theorem components_silent (s t : String) {piece : String} (h : isSilent piece.toList = true) :
    components ⟨s ++ "/" ++ (piece ++ "/" ++ t)⟩ = components ⟨s ++ "/" ++ t⟩ := by
  have hslash : '/' ∉ piece.toList := by
    rcases isSilent_iff_eq.1 h with heq | heq <;> simp [heq]
  have hsplit : split '/' (piece ++ "/" ++ t).toList = piece.toList :: split '/' t.toList := by
    rw [String.toList_append, String.toList_append, List.append_assoc,
      ← List.singleton_append (l := split '/' t.toList), ← split_of_notMem hslash]
    exact split_append_sep piece.toList t.toList
  rw [components_append_slash, components_append_slash, hsplit,
    List.filterMap_cons_none (Option.isNone_iff_eq_none.1 h)]

theorem Respells.components_eq (h : p.Respells q) : p.components = q.components := by
  cases h with
  | slashes s t =>
    have htext : s ++ "//" ++ t = s ++ "/" ++ ("" ++ "/" ++ t) := by
      apply String.ext
      simp
    rw [htext, components_silent s t (by decide)]
  | dot s t =>
    have htext : s ++ "/./" ++ t = s ++ "/" ++ ("." ++ "/" ++ t) := by
      apply String.ext
      simp
    rw [htext, components_silent s t (by decide)]
  | lastSlash s h => exact components_slash h
  | lastDot s => exact components_slash_dot s

/-! ### The way to the plainest spelling -/

/-- A piece between slashes that stands for nothing is taken out by a rule. -/
theorem respells_between (s t : List Char) (h : isSilent piece = true) :
    Respells ⟨String.ofList (s ++ '/' :: (piece ++ '/' :: t))⟩ ⟨String.ofList (s ++ '/' :: t)⟩ := by
  have hplain : String.ofList (s ++ '/' :: t) = String.ofList s ++ "/" ++ String.ofList t := by
    rw [List.append_cons, String.ofList_append, String.ofList_append]
  rw [hplain]
  rcases isSilent_iff_eq.1 h with rfl | rfl
  · show Respells ⟨String.ofList (s ++ (['/', '/'] ++ t))⟩ _
    rw [String.ofList_append, String.ofList_append, ← String.append_assoc]
    exact .slashes _ _
  · show Respells ⟨String.ofList (s ++ (['/', '.', '/'] ++ t))⟩ _
    rw [String.ofList_append, String.ofList_append, ← String.append_assoc]
    exact .dot _ _

/-- A piece at the end that stands for nothing is taken out with its slash. -/
theorem eqvGen_last {s : List Char} (hs : s ≠ []) (h : isSilent piece = true) :
    EqvGen Respells ⟨String.ofList (s ++ '/' :: piece)⟩ ⟨String.ofList s⟩ := by
  have hne : String.ofList s ≠ "" := by simpa using hs
  have hslash : EqvGen Respells ⟨String.ofList s ++ "/"⟩ ⟨String.ofList s⟩ := .rel _ _ (.lastSlash _ hne)
  rw [String.ofList_append]
  rcases isSilent_iff_eq.1 h with rfl | rfl
  · exact hslash
  · exact .trans _ _ _ (.rel _ _ (.lastDot _)) hslash

/-- Behind a text that is not empty, all pieces that stand for nothing are taken out. -/
theorem eqvGen_pieces {s : List Char} (hs : s ≠ []) (pieces : List (List Char)) :
    EqvGen Respells ⟨String.ofList (s ++ pieces.flatMap ('/' :: ·))⟩
      ⟨String.ofList (s ++ (pieces.filter (!isSilent ·)).flatMap ('/' :: ·))⟩ := by
  induction pieces generalizing s with
  | nil => exact .refl _
  | cons piece rest ih =>
    cases hpiece : isSilent piece with
    | false =>
      -- the piece stays, and the others are taken out behind it
      rw [List.filter_cons_of_pos (by simpa using hpiece), List.flatMap_cons, List.flatMap_cons,
        ← List.append_assoc, ← List.append_assoc]
      apply ih
      simp
    | true =>
      rw [List.filter_cons_of_neg (by simpa using hpiece)]
      cases rest with
      | nil => simpa using eqvGen_last hs hpiece
      | cons next rest =>
        refine .trans _ _ _ (.rel _ _ ?_) (ih hs)
        exact respells_between s (next ++ rest.flatMap ('/' :: ·)) hpiece

/-- How components behind a first one are spelled. -/
theorem toList_ofComponents_cons {c : Component} {cs : List Component} (h : c :: cs ≠ [.root]) :
    (ofComponents (c :: cs)).text.toList
      = c.toText ++ (cs.map Component.toText).flatMap ('/' :: ·) := by
  rw [toList_ofComponents h, List.map_cons, join_cons]

/-- A first piece that is not empty is how the first component is written. -/
theorem exists_components_of_split {first : List Char} {rest : List (List Char)}
    (hsplit : split '/' p.text.toList = first :: rest) (hne : first ≠ []) :
    ∃ c, c ≠ .root ∧ c.toText = first ∧ p.components = c :: rest.filterMap componentOf? := by
  have hslash : '/' ∉ first := sep_notMem_of_mem_split (hsplit ▸ List.mem_cons_self)
  rw [components, hsplit]
  simp only [hne, if_false]
  by_cases hcurrent : first = ['.']
  · exact ⟨.current, by decide, hcurrent.symm, if_pos hcurrent⟩
  · have hstands : componentOf? first ≠ none := by
      intro hnone
      rcases isSilent_iff_eq.1 (Option.isNone_iff_eq_none.2 hnone) with h | h
      · exact hne h
      · exact hcurrent h
    obtain ⟨c, hc⟩ := Option.ne_none_iff_exists'.1 hstands
    obtain ⟨hinner, htext⟩ := Component.of_componentOf? hslash hc
    refine ⟨c, ?_, htext, ?_⟩
    · rintro rfl
      exact hinner
    · rw [if_neg hcurrent, List.filterMap_cons_some hc]

/-- A path from the root is led to its plainest spelling. -/
theorem eqvGen_root (hne : pieces ≠ []) (hslash : ∀ piece ∈ pieces, '/' ∉ piece) :
    EqvGen Respells ⟨String.ofList (pieces.flatMap ('/' :: ·))⟩
      (ofComponents (.root :: pieces.filterMap componentOf?)) := by
  induction pieces with
  | nil => exact absurd rfl hne
  | cons piece rest ih =>
    obtain ⟨hpiece, hrest⟩ := List.forall_mem_cons.1 hslash
    cases hcomponent : componentOf? piece with
    | some c =>
      -- the text is not empty any more, so that the other pieces are taken out behind it
      have hplain : ofComponents (.root :: c :: rest.filterMap componentOf?)
          = ⟨String.ofList ('/' :: piece ++ (rest.filter (!isSilent ·)).flatMap ('/' :: ·))⟩ := by
        apply eq_of_toList
        rw [toList_ofComponents_cons (by simp), List.map_cons, map_toText_filterMap hrest,
          (Component.of_componentOf? hpiece hcomponent).2, String.toList_ofList]
        rfl
      rw [List.filterMap_cons_some hcomponent, hplain]
      exact eqvGen_pieces (List.cons_ne_nil '/' piece) rest
    | none =>
      have hsilent : isSilent piece = true := Option.isNone_iff_eq_none.2 hcomponent
      rw [List.filterMap_cons_none hcomponent]
      cases rest with
      | nil =>
        -- all that is left is the slash of the root
        rcases isSilent_iff_eq.1 hsilent with rfl | rfl
        · exact .refl _
        · exact .rel _ _ (.lastDot "")
      | cons next rest =>
        refine .trans _ _ _ (.rel _ _ ?_) (ih (List.cons_ne_nil _ _) hrest)
        exact respells_between [] (next ++ rest.flatMap ('/' :: ·)) hsilent

/-- The rules lead from any spelling to the plainest one. -/
theorem eqvGen_ofComponents (p : Path) : EqvGen Respells p (ofComponents p.components) := by
  have hpieces : ∀ piece ∈ split '/' p.text.toList, '/' ∉ piece := fun _ => sep_notMem_of_mem_split
  have hjoin := join_split '/' p.text.toList
  obtain ⟨first, rest, hsplit⟩ := List.exists_cons_of_ne_nil (split_ne_nil '/' p.text.toList)
  rw [hsplit] at hpieces
  obtain ⟨-, hrest⟩ := List.forall_mem_cons.1 hpieces
  have hp : p = ⟨String.ofList (first ++ rest.flatMap ('/' :: ·))⟩ := by
    apply eq_of_toList
    rw [String.toList_ofList, ← hjoin, hsplit, join_cons]
  by_cases hempty : first = []
  · subst hempty
    by_cases hnil : rest = []
    · -- the empty path
      subst hnil
      rw [hp]
      exact .refl _
    · rw [components, hsplit]
      simp only [if_true, List.isEmpty_iff, hnil, if_false]
      conv_lhs => rw [hp]
      exact eqvGen_root hnil hrest
  · have hplain : ofComponents p.components
        = ⟨String.ofList (first ++ (rest.filter (!isSilent ·)).flatMap ('/' :: ·))⟩ := by
      obtain ⟨c, hroot, htext, hcomponents⟩ := exists_components_of_split hsplit hempty
      apply eq_of_toList
      rw [hcomponents, toList_ofComponents_cons (by simp [hroot]), htext, map_toText_filterMap hrest,
        String.toList_ofList]
    rw [hplain]
    conv_lhs => rw [hp]
    exact eqvGen_pieces hempty rest

/-- **Two spellings have the same components exactly if the rules lead from one to the other.** -/
theorem components_eq_iff_eqvGen : p.components = q.components ↔ EqvGen Respells p q := by
  constructor
  · intro h
    -- both meet at the plainest spelling
    have hq := eqvGen_ofComponents q
    rw [← h] at hq
    exact .trans _ _ _ (eqvGen_ofComponents p) (.symm _ _ hq)
  · intro h
    induction h with
    | rel p q h => exact h.components_eq
    | refl p => rfl
    | symm p q _ ih => exact ih.symm
    | trans p q r _ _ hpq hqr => exact hpq.trans hqr

end Path

end ImportCensus
