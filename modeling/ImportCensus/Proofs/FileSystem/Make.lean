/-
ImportCensus/Proofs/FileSystem/Make.lean

Making a directory and the directories above it.

A directory is made where there is nothing, in a directory that is there, so a hierarchy only grows by
directories with nothing in them (`Grown`).  If some directory on the way cannot be made, none below it can
be made either; so whatever was made the first time, a second time makes no more of it.

Main statements: what is made are the directories of the given paths (`Ensures.grown`), nothing more is made
the second time (`Ensures.idem`), and nothing is made where the directory is there already
(`makeDirectories_of_directory`).
-/
import ImportCensus.Proofs.FileSystem.Directory

namespace ImportCensus

open Text

namespace FileSystem

variable {fs fs' : FileSystem} {p q : Path} {cs ds : List Component} {c : Component} {d place : Place}
  {spot : Spot} {followLast : Bool} {n : Node}

/-! ### The directory above -/

/-- A path that can be followed at all has a directory above it that can. -/
theorem checkText_above (hne : cs ≠ []) (hcs : Path.Spellable cs)
    (h : checkText (.ofComponents (cs ++ [c])) = .ok ()) : checkText (.ofComponents cs) = .ok () := by
  obtain ⟨tail, htail⟩ := Path.exists_text_concat hne c
  have htext : (Path.ofComponents (cs ++ [c])).text = (Path.ofComponents cs).text ++ String.ofList tail := by
    apply String.ext
    rw [htail, String.toList_append, String.toList_ofList]
  rw [checkText] at h
  split at h
  · cases h
  · split at h
    · cases h
    · next hnul =>
      split at h
      · cases h
      · next hfits =>
        rw [checkText, if_neg (Path.text_ofComponents_ne hcs hne), if_neg, if_neg]
        · simp only [fits, htext, String.utf8ByteSize_append, Bool.not_eq_true', decide_eq_false_iff_not,
            not_not] at hfits ⊢
          omega
        · simp only [htail, List.contains_append, Bool.or_eq_true, not_or] at hnul
          exact hnul.1

/-- A path that is not empty is refused for what is in its text. -/
theorem ne_noEntry_of_checkText {e : FileError} (htext : p.text ≠ "") (h : checkText p = .error e) :
    e ≠ .noEntry := by
  rintro rfl
  rw [checkText, if_neg htext] at h
  split at h
  · cases h
  · split at h <;> cases h

/-- A path that leads somewhere has a directory, if its last component is not the first one. -/
theorem exists_directory_of_inner (hcs : Path.Spellable (cs ++ [c])) (hne : cs ≠ [])
    (h : fs.spot followLast (.ofComponents (cs ++ [c])) = .ok spot) :
    ∃ d, fs.directory? (.ofComponents (cs ++ [c])) = some d := by
  obtain ⟨-, -, hwalk⟩ := exists_of_bind_ok h
  rw [Path.split_ofComponents hcs (by simp) (Path.concat_ne_root hne c), List.map_append, List.map_singleton] at hwalk
  have hlast : ([c.toText] : List (List Char)).all List.isEmpty = false := by
    simpa using Component.toText_ne_nil (hcs.isInner hne)
  obtain ⟨left, d, hgoes, hleads⟩ := exists_goes hwalk (.inl hlast)
  obtain ⟨entries, hd, -⟩ := walkLinks_cons_iff.1 hleads
  refine ⟨d, directory?_eq_some_iff.2 ⟨⟨entries, hd⟩, left, ?_⟩⟩
  rw [directoryPieces, Path.components_ofComponents hcs, List.dropLast_concat]
  exact hgoes

/-- The path of the components before the last one leads to the directory of a path. -/
theorem locate_above (hp : p.components = cs ++ [c]) (hne : cs ≠ []) (hd : fs.directory? p = some d)
    (htext : checkText (.ofComponents cs) = .ok ()) :
    ∃ entries, fs.locate (.ofComponents cs) = .ok (d, .directory entries) := by
  have hcs : Path.Spellable cs := by
    have hall := Path.spellable_components p
    rw [hp] at hall
    exact hall.of_append
  have hcomponents := Path.components_ofComponents hcs
  obtain ⟨⟨entries, hfind⟩, left, hgoes⟩ := directory?_eq_some_iff.1 hd
  have hstart : fs.start p = fs.start (.ofComponents cs) := by
    apply start_eq
    rw [hp, hcomponents, List.head?_append_of_ne_nil _ hne]
  have hpieces : (directoryPieces p).filter (!isSilent ·)
      = (split '/' (Path.ofComponents cs).text.toList).filter (!isSilent ·) := by
    simp only [isSilent_eq]
    rw [Path.filter_split, hcomponents, directoryPieces, hp, List.dropLast_concat]
  rw [hstart] at hgoes
  have hwalk := (hgoes.congr ⟨entries, hfind⟩ hpieces).walkLinks_eq_found hfind
  refine ⟨entries, ?_⟩
  rw [locate, FileSystem.spot, htext]
  show (walkLinks fs.root true linkLimit _ _ >>= _) = _
  rw [hwalk]
  rfl

/-- What leads somewhere is in a directory, to which the path of the components before leads. -/
theorem isDirectory_above (hcs : Path.Spellable (cs ++ [c])) (hne : cs ≠ [])
    (h : fs.spot followLast (.ofComponents (cs ++ [c])) = .ok spot) :
    fs.isDirectory (.ofComponents cs) = true := by
  obtain ⟨⟨⟩, htext, -⟩ := exists_of_bind_ok h
  obtain ⟨d, hd⟩ := exists_directory_of_inner hcs hne h
  obtain ⟨entries, hlocate⟩ := locate_above (Path.components_ofComponents hcs) hne hd
    (checkText_above hne hcs.of_append htext)
  rw [isDirectory, hlocate]
  rfl

/-! ### One directory -/

theorem isDirectory_iff :
    fs.isDirectory p = true ↔ ∃ place entries, fs.locate p = .ok (place, .directory entries) := by
  rw [isDirectory]
  constructor
  · intro h
    split at h
    · next place n hlocate =>
      cases n with
      | directory entries => exact ⟨place, entries, hlocate⟩
      | _ => cases h
    · cases h
  · rintro ⟨place, entries, hlocate⟩
    rw [hlocate]
    rfl

/-- Only a name can lead to where there is nothing. -/
theorem exists_name_of_vacant {x : String} {slash : Bool} (hcs : Path.Spellable cs)
    (h : fs.spot followLast (.ofComponents cs) = .ok (.vacant d x slash)) :
    ∃ ds name, cs = ds ++ [.name name] := by
  cases hname : (Path.ofComponents cs).fileName? with
  | none =>
    obtain ⟨q, entries, hspot⟩ := exists_directory_of_nameless hname h
    cases hspot
  | some name =>
    have hcomponents := Path.components_of_fileName? hname
    rw [Path.components_ofComponents hcs] at hcomponents
    exact ⟨_, name, hcomponents⟩

/-- What making a directory does: the directory of its path gets a new entry, to which the path leads. -/
theorem exists_of_makeDirectory (hcs : Path.Spellable cs)
    (h : fs.makeDirectory (.ofComponents cs) = .ok fs') :
    ∃ d name, fs.root.IsDirectoryAt d ∧ fs.root.find? (d ++ [name]) = none ∧
      fs' = fs.put d name (.directory []) ∧
      fs'.locate (.ofComponents cs) = .ok (d ++ [name], .directory []) := by
  obtain ⟨spot, hspot, hmade⟩ := exists_of_bind_ok h
  cases spot with
  | found place n => cases hmade
  | vacant d' x slash =>
    cases hmade
    obtain ⟨ds, name, rfl⟩ := exists_name_of_vacant hcs hspot
    have hp := Path.endsIn_ofComponents hcs
    obtain ⟨d, hd, htext, hsize⟩ := exists_directory hp.fileName hspot
    have hdirectory := isDirectoryAt_of_directory? hd
    obtain ⟨-, -, ⟨hnone, hvacant⟩ | ⟨n, -, hfound⟩⟩ := (spot_false_iff hp hd).1 hspot
    · cases hvacant
      refine ⟨d', x, hdirectory, hnone, rfl, ?_⟩
      have hpersist := persists_put (n := .directory []) hdirectory (isLoose_of_none hnone)
      have hd' := directory?_persist hpersist rfl hd
      have hentry : (fs.put d' x (.directory [])).root.find? (d' ++ [x]) = some (.directory []) :=
        find?_put hdirectory []
      rw [locate, spot_true_eq_found hp hd' htext hsize hentry (by simp)]
      rfl
    · cases hfound

/-- Where there is a directory, no other one is made. -/
theorem ensureDirectory_of_isDirectory (hcs : Path.Spellable cs)
    (h : fs.isDirectory (.ofComponents cs) = true) :
    fs.ensureDirectory (.ofComponents cs) = .ok fs := by
  have hnot : ∀ made, fs.makeDirectory (.ofComponents cs) ≠ .ok made := by
    intro made hmade
    obtain ⟨spot, hspot, hput⟩ := exists_of_bind_ok hmade
    cases spot with
    | found place n => cases hput
    | vacant d x slash =>
      -- the path would lead to nothing if it were followed to its end, too
      obtain ⟨ds, name, rfl⟩ := exists_name_of_vacant hcs hspot
      have hp := Path.endsIn_ofComponents hcs
      obtain ⟨d, hd, htext, hsize⟩ := exists_directory hp.fileName hspot
      obtain ⟨-, -, ⟨hnone, -⟩ | ⟨n, -, hfound⟩⟩ := (spot_false_iff hp hd).1 hspot
      · obtain ⟨place, entries, hlocate⟩ := isDirectory_iff.1 h
        rw [locate, spot_true_eq_vacant hp hd htext hsize hnone] at hlocate
        cases hlocate
      · cases hfound
  rw [ensureDirectory]
  split
  · next made hmade => exact absurd hmade (hnot made)
  · rw [if_pos h]

/-- A directory that could be ensured is there afterwards. -/
theorem isDirectory_of_ensureDirectory (hcs : Path.Spellable cs)
    (h : fs.ensureDirectory (.ofComponents cs) = .ok fs') :
    fs'.isDirectory (.ofComponents cs) = true := by
  rw [ensureDirectory] at h
  split at h
  · next made hmade =>
    cases h
    obtain ⟨d, name, -, -, -, hlocate⟩ := exists_of_makeDirectory hcs hmade
    exact isDirectory_iff.2 ⟨_, _, hlocate⟩
  · split at h
    · next hdirectory =>
      cases h
      exact hdirectory
    · cases h

theorem not_isDirectory_of_ensureDirectory {e : FileError} (h : fs.ensureDirectory p = .error e) :
    fs.isDirectory p = false := by
  rw [ensureDirectory] at h
  split at h
  · cases h
  · split at h
    · cases h
    · next hdirectory => simpa using hdirectory

/-- What cannot be followed cannot be ensured, and for the same reason. -/
theorem ensureDirectory_of_checkText {e : FileError} (h : checkText p = .error e) :
    fs.ensureDirectory p = .error e := by
  have hspot : ∀ followLast, fs.spot followLast p = .error e := by
    intro followLast
    rw [FileSystem.spot, h]
    rfl
  have hmake : fs.makeDirectory p = .error e := by
    rw [makeDirectory, make, hspot]
    rfl
  have hdirectory : fs.isDirectory p = false := by
    rw [isDirectory, locate, hspot]
    rfl
  rw [ensureDirectory, hmake]
  simp only [hdirectory, Bool.false_eq_true, if_false]

/-- A directory that can be ensured is in a directory. -/
theorem isDirectory_above_of_ensureDirectory (hcs : Path.Spellable (cs ++ [c])) (hne : cs ≠ [])
    (h : fs.ensureDirectory (.ofComponents (cs ++ [c])) = .ok fs') :
    fs.isDirectory (.ofComponents cs) = true := by
  rw [ensureDirectory] at h
  split at h
  · next made hmade =>
    obtain ⟨spot, hspot, -⟩ := exists_of_bind_ok hmade
    exact isDirectory_above hcs hne hspot
  · split at h
    · next hdirectory =>
      obtain ⟨place, entries, hlocate⟩ := isDirectory_iff.1 hdirectory
      obtain ⟨spot, hspot, -⟩ := exists_of_bind_ok hlocate
      exact isDirectory_above hcs hne hspot
    · cases h

/-! ### Directories above directories -/

/-- What making several directories comes to, each of which is in the next one. -/
inductive Ensures : FileSystem → List Path → FileSystem → Except FileError Unit → Prop
  | nothing {fs : FileSystem} : Ensures fs [] fs (.error .noEntry)
  | here {fs : FileSystem} {p : Path} {parents : List Path} (htext : p.text = "") :
      Ensures fs (p :: parents) fs (.ok ())
  | made {fs fs' : FileSystem} {p : Path} {parents : List Path} (htext : p.text ≠ "")
      (h : fs.ensureDirectory p = .ok fs') : Ensures fs (p :: parents) fs' (.ok ())
  | refused {fs : FileSystem} {p : Path} {parents : List Path} {e : FileError} (htext : p.text ≠ "")
      (h : fs.ensureDirectory p = .error e) (he : e ≠ .noEntry) : Ensures fs (p :: parents) fs (.error e)
  | above {fs fs' : FileSystem} {p : Path} {parents : List Path} {e : FileError} (htext : p.text ≠ "")
      (h : fs.ensureDirectory p = .error .noEntry) (habove : Ensures fs parents fs' (.error e)) :
      Ensures fs (p :: parents) fs' (.error e)
  | again {fs fs' fs'' : FileSystem} {p : Path} {parents : List Path} (htext : p.text ≠ "")
      (h : fs.ensureDirectory p = .error .noEntry) (habove : Ensures fs parents fs' (.ok ()))
      (hagain : fs'.ensureDirectory p = .ok fs'') : Ensures fs (p :: parents) fs'' (.ok ())
  | failed {fs fs' : FileSystem} {p : Path} {parents : List Path} {e : FileError} (htext : p.text ≠ "")
      (h : fs.ensureDirectory p = .error .noEntry) (habove : Ensures fs parents fs' (.ok ()))
      (hagain : fs'.ensureDirectory p = .error e) : Ensures fs (p :: parents) fs' (.error e)

theorem ensures_ensureAll (fs : FileSystem) (ps : List Path) :
    Ensures fs ps (fs.ensureAll ps).1 (fs.ensureAll ps).2 := by
  induction ps with
  | nil => exact .nothing
  | cons p parents ih =>
    rw [ensureAll]
    split
    · next htext => exact .here htext
    · next htext =>
      split
      · next made hmade => exact .made htext hmade
      · next hmissing =>
        split
        · next above e habove =>
          rw [habove] at ih
          exact .above htext hmissing ih
        · next above u habove =>
          rw [habove] at ih
          split
          · next made hmade => exact .again htext hmissing ih hmade
          · next e hagain => exact .failed htext hmissing ih hagain
      · next e he hrefused => exact .refused htext hrefused he

/-- There is only one outcome. -/
theorem Ensures.eq {ps : List Path} {r : Except FileError Unit} (h : Ensures fs ps fs' r) :
    fs.ensureAll ps = (fs', r) := by
  induction h with
  | nothing => rfl
  | here htext => rw [ensureAll, if_pos htext]
  | made htext h => simp only [ensureAll, if_neg htext, h]
  | refused htext h he => simp only [ensureAll, if_neg htext, h]
  | above htext h habove ih => simp only [ensureAll, if_neg htext, h, ih]
  | again htext h habove hagain ih => simp only [ensureAll, if_neg htext, h, ih, hagain]
  | failed htext h habove hagain ih => simp only [ensureAll, if_neg htext, h, ih, hagain]

/-- Is each path of a list the plainest spelling of components, and the next one without the last of
them? -/
inductive Ascends : List Path → Prop
  | nil : Ascends []
  | single {cs : List Component} (hcs : Path.Spellable cs) : Ascends [.ofComponents cs]
  | cons {cs : List Component} {c : Component} {ps : List Path} (hcs : Path.Spellable (cs ++ [c]))
      (habove : Ascends (.ofComponents cs :: ps)) :
      Ascends (.ofComponents (cs ++ [c]) :: .ofComponents cs :: ps)

theorem Ascends.tail {ps : List Path} (h : Ascends (p :: ps)) : Ascends ps := by
  cases h with
  | single => exact .nil
  | cons _ habove => exact habove

theorem Ascends.exists_components {ps : List Path} (h : Ascends (p :: ps)) :
    ∃ cs, Path.Spellable cs ∧ p = .ofComponents cs := by
  cases h with
  | single hcs => exact ⟨_, hcs, rfl⟩
  | cons hcs => exact ⟨_, hcs, rfl⟩

/-- The directories above a path ascend. -/
theorem ascends_ancestors (steps : Nat) (hcs : Path.Spellable cs) :
    Ascends (ancestors steps (.ofComponents cs)) := by
  induction steps generalizing cs with
  | zero => exact .single hcs
  | succ steps ih =>
    rw [ancestors]
    cases hparent : (Path.ofComponents cs).parent? with
    | none => exact .single hcs
    | some q =>
      rw [Path.parent?, Path.components_ofComponents hcs] at hparent
      split at hparent
      · cases hparent
      · cases hparent
      · next c _ hlast =>
        cases hparent
        obtain ⟨front, rfl⟩ := List.getLast?_eq_some_iff.1 hlast
        rw [List.dropLast_concat]
        have habove := ih hcs.of_append
        cases steps with
        | zero => exact .cons hcs habove
        | succ steps => exact .cons hcs habove

theorem Ensures.text_ne {ps : List Path} {e : FileError} (h : Ensures fs (p :: ps) fs' (.error e)) :
    p.text ≠ "" := by
  cases h with
  | refused htext | above htext | failed htext => exact htext

/-- A directory that can be ensured is in one to which the next path leads. -/
theorem Ascends.isDirectory_above {ps : List Path} (hps : Ascends (p :: q :: ps)) (hq : q.text ≠ "")
    (h : fs.ensureDirectory p = .ok fs') : fs.isDirectory q = true := by
  cases hps with
  | cons hcs habove =>
    apply isDirectory_above_of_ensureDirectory hcs _ h
    rintro rfl
    exact hq rfl

/-- If directories cannot all be made, the first one is not there. -/
theorem Ensures.not_isDirectory {ps : List Path} {e : FileError}
    (h : Ensures fs (p :: ps) fs' (.error e)) (hps : Ascends (p :: ps)) : fs'.isDirectory p = false := by
  induction ps generalizing p e with
  | nil =>
    cases h with
    | refused htext h he => exact not_isDirectory_of_ensureDirectory h
    | above htext h habove =>
      cases habove
      exact not_isDirectory_of_ensureDirectory h
    | failed htext h habove hagain => exact not_isDirectory_of_ensureDirectory hagain
  | cons q ps ih =>
    cases h with
    | refused htext h he => exact not_isDirectory_of_ensureDirectory h
    | above htext h habove =>
      -- below a directory that is not there, there is none either
      have hq := ih habove hps.tail
      obtain ⟨cs, hcs, rfl⟩ := hps.exists_components
      rw [← Bool.not_eq_true] at hq ⊢
      intro hdirectory
      exact hq (hps.isDirectory_above habove.text_ne (ensureDirectory_of_isDirectory hcs hdirectory))
    | failed htext h habove hagain => exact not_isDirectory_of_ensureDirectory hagain

/-- A directory that cannot be ensured is not made, if nothing is made above it. -/
theorem Ensures.of_error {parents : List Path} {e : FileError} {r : Except FileError Unit}
    (htext : p.text ≠ "") (h : fs.ensureDirectory p = .error e) (habove : Ensures fs parents fs r) :
    ∃ r', Ensures fs (p :: parents) fs r' := by
  by_cases he : e = .noEntry
  · subst he
    cases r with
    | error e => exact ⟨_, .above htext h habove⟩
    | ok u => exact ⟨_, .failed htext h habove h⟩
  · exact ⟨_, .refused htext h he⟩

/-- **Nothing more is made the second time.** -/
theorem Ensures.idem {ps : List Path} {r : Except FileError Unit} (h : Ensures fs ps fs' r)
    (hps : Ascends ps) : ∃ r', Ensures fs' ps fs' r' := by
  induction h with
  | nothing => exact ⟨_, .nothing⟩
  | here htext => exact ⟨_, .here htext⟩
  | made htext h =>
    obtain ⟨cs, hcs, rfl⟩ := hps.exists_components
    have hthere := isDirectory_of_ensureDirectory hcs h
    exact ⟨_, .made htext (ensureDirectory_of_isDirectory hcs hthere)⟩
  | refused htext h he => exact ⟨_, .refused htext h he⟩
  | @above fs' p parents e htext h habove ih =>
    obtain ⟨r', habove'⟩ := ih hps.tail
    cases hagain : fs'.ensureDirectory p with
    | error e => exact habove'.of_error htext hagain
    | ok made =>
      exfalso
      cases parents with
      | nil =>
        cases habove
        rw [h] at hagain
        cases hagain
      | cons q parents =>
        have hq := hps.isDirectory_above habove.text_ne hagain
        rw [habove.not_isDirectory hps.tail] at hq
        cases hq
  | again htext h habove hagain ih =>
    obtain ⟨cs, hcs, rfl⟩ := hps.exists_components
    have hthere := isDirectory_of_ensureDirectory hcs hagain
    exact ⟨_, .made htext (ensureDirectory_of_isDirectory hcs hthere)⟩
  | failed htext h habove hagain ih =>
    obtain ⟨r', habove'⟩ := ih hps.tail
    exact habove'.of_error htext hagain

/-! ### Growth -/

/-- Is a file system what another one was, but for new directories to which some paths lead? -/
structure Grown (ps : List Path) (fs fs' : FileSystem) : Prop where
  current : fs'.current = fs.current
  look : ∀ q, fs'.root.look q = fs.root.look q ∨
    fs.root.find? q = none ∧ ∃ p ∈ ps, ∃ entries, fs'.locate p = .ok (q, .directory entries)

namespace Grown

variable {ps qs : List Path} {fs'' : FileSystem}

theorem refl (ps : List Path) (fs : FileSystem) : Grown ps fs fs where
  current := rfl
  look _ := .inl rfl

theorem mono (h : Grown ps fs fs') (hps : ps ⊆ qs) : Grown qs fs fs' where
  current := h.current
  look q := by
    rcases h.look q with hlook | ⟨hnone, p, hp, hlocate⟩
    · exact .inl hlook
    · exact .inr ⟨hnone, p, hps hp, hlocate⟩

/-- Whatever was there is there and looks the same. -/
theorem look_eq (h : Grown ps fs fs') (hplace : fs.root.find? place ≠ none) :
    fs'.root.look place = fs.root.look place :=
  (h.look place).resolve_right fun hnew => hplace hnew.1

theorem persists (h : Grown ps fs fs') : Persists fs.root fs'.root where
  directory {q} hq := by
    obtain ⟨entries, hfind⟩ := hq
    rw [← Node.look_eq_directory, h.look_eq (by simp [hfind]), Node.look_eq_directory]
    exact ⟨entries, hfind⟩
  link {q target} hq := by
    rw [← Node.look_eq_some_iff rfl, h.look_eq (by simp [hq]), Node.look_eq_some_iff rfl]
    exact hq

theorem trans (h : Grown ps fs fs') (h' : Grown ps fs' fs'') : Grown ps fs fs'' where
  current := h'.current.trans h.current
  look q := by
    rcases h.look q with hlook | ⟨hnone, p, hp, entries, hlocate⟩
    · rcases h'.look q with hlook' | ⟨hnone', hleads⟩
      · exact .inl (hlook'.trans hlook)
      · rw [← Node.look_eq_none, hlook, Node.look_eq_none] at hnone'
        exact .inr ⟨hnone', hleads⟩
    · exact .inr ⟨hnone, p, hp, locate_persist h'.persists h'.current hlocate⟩

end Grown

theorem grown_of_ensureDirectory (hcs : Path.Spellable cs)
    (h : fs.ensureDirectory (.ofComponents cs) = .ok fs') : Grown [.ofComponents cs] fs fs' := by
  rw [ensureDirectory] at h
  split at h
  · next made hmade =>
    cases h
    obtain ⟨d, name, hd, hnone, rfl, hlocate⟩ := exists_of_makeDirectory hcs hmade
    refine ⟨rfl, fun q => ?_⟩
    by_cases hq : q = d ++ [name]
    · subst hq
      exact .inr ⟨hnone, _, List.mem_singleton_self _, _, hlocate⟩
    · left
      by_cases hprefix : d ++ [name] <+: q
      · -- the new directory has nothing in it, and nothing was there before
        obtain ⟨rest, rfl⟩ := hprefix
        have hbefore := Node.find?_append_of_none hnone rest
        have hafter : (fs.put d name (.directory [])).root.find? (d ++ [name] ++ rest) = none := by
          rw [List.append_assoc, List.singleton_append, find?_put hd]
          cases rest with
          | nil => exact absurd (List.append_nil _) hq
          | cons next rest => rfl
        rw [Node.look_eq_none.2 hbefore, Node.look_eq_none.2 hafter]
      · exact look_put hd hprefix
  · split at h
    · cases h
      exact .refl _ _
    · cases h

/-- **What is made are directories to which the paths lead.** -/
theorem Ensures.grown {ps : List Path} {r : Except FileError Unit} (h : Ensures fs ps fs' r)
    (hps : Ascends ps) : Grown ps fs fs' := by
  have hhead : ∀ {p : Path} {parents : List Path}, [p] ⊆ p :: parents := by simp
  have htail : ∀ {p : Path} {parents : List Path}, parents ⊆ p :: parents := by simp
  induction h with
  | nothing => exact .refl _ _
  | here htext => exact .refl _ _
  | made htext h =>
    obtain ⟨cs, hcs, rfl⟩ := hps.exists_components
    exact (grown_of_ensureDirectory hcs h).mono hhead
  | refused htext h he => exact .refl _ _
  | above htext h habove ih => exact (ih hps.tail).mono htail
  | again htext h habove hagain ih =>
    obtain ⟨cs, hcs, rfl⟩ := hps.exists_components
    exact ((ih hps.tail).mono htail).trans ((grown_of_ensureDirectory hcs hagain).mono hhead)
  | failed htext h habove hagain ih => exact (ih hps.tail).mono htail

/-! ### All directories above a path -/

theorem exists_ancestors_eq (steps : Nat) (p : Path) : ∃ ps, ancestors steps p = p :: ps := by
  cases steps with
  | zero => exact ⟨[], rfl⟩
  | succ steps => exact ⟨_, rfl⟩

theorem grown_makeDirectories (fs : FileSystem) (hcs : Path.Spellable cs) :
    Grown (ancestors (Path.ofComponents cs).components.length (.ofComponents cs)) fs
      (fs.makeDirectories (.ofComponents cs)).1 :=
  (ensures_ensureAll fs _).grown (ascends_ancestors _ hcs)

theorem makeDirectories_makeDirectories (fs : FileSystem) (hcs : Path.Spellable cs) :
    ((fs.makeDirectories (.ofComponents cs)).1.makeDirectories (.ofComponents cs)).1
      = (fs.makeDirectories (.ofComponents cs)).1 := by
  obtain ⟨r, hagain⟩ := (ensures_ensureAll fs _).idem (ascends_ancestors _ hcs)
  rw [makeDirectories, makeDirectories, hagain.eq]

/-- Where a path has a directory, nothing is made above it. -/
theorem makeDirectories_of_directory (hp : p.components = cs ++ [c]) (hd : fs.directory? p = some d) :
    (fs.makeDirectories (.ofComponents cs)).1 = fs := by
  have hcs : Path.Spellable cs := by
    have hall := Path.spellable_components p
    rw [hp] at hall
    exact hall.of_append
  obtain ⟨ps, hps⟩ := exists_ancestors_eq (Path.ofComponents cs).components.length (.ofComponents cs)
  have hsame : ∃ r, Ensures fs (.ofComponents cs :: ps) fs r := by
    by_cases hne : cs = []
    · subst hne
      exact ⟨_, .here rfl⟩
    · have htext := Path.text_ofComponents_ne hcs hne
      cases hcheck : checkText (.ofComponents cs) with
      | ok u =>
        obtain ⟨entries, hlocate⟩ := locate_above hp hne hd hcheck
        have hthere := isDirectory_iff.2 ⟨_, _, hlocate⟩
        exact ⟨_, .made htext (ensureDirectory_of_isDirectory hcs hthere)⟩
      | error e =>
        exact ⟨_, .refused htext (ensureDirectory_of_checkText hcheck)
          (ne_noEntry_of_checkText htext hcheck)⟩
  obtain ⟨r, hr⟩ := hsame
  rw [makeDirectories, hps, hr.eq]

end FileSystem

end ImportCensus
