/-
ImportCensus/Proofs/FileSystem/Access.lean

Where paths lead in a well-formed file system, and what programs leave of it.

Following a path either comes to an entry, and then to the one at the place it reports, or to a name that is
fit for an entry and not there yet (`Spot.Fits`).  Whatever a program changes, it changes at such a spot.

Main statements: what a path leads to in a well-formed file system is well-formed (`wellFormed_of_locate`),
and so is every file system that programs have made (`Made.wellFormed`).
-/
import ImportCensus.FileSystem.Access
import ImportCensus.Proofs.FileSystem.Tree

namespace ImportCensus

open Text

/-- A computation that does not fail has not failed half way. -/
theorem exists_of_bind_ok {ε α β : Type} {x : Except ε α} {f : α → Except ε β} {b : β}
    (h : x >>= f = .ok b) : ∃ a, x = .ok a ∧ f a = .ok b := by
  cases x with
  | error e => cases h
  | ok a => exact ⟨a, rfl, h⟩

theorem bind_eq_ok_iff {ε α β : Type} {x : Except ε α} {f : α → Except ε β} {b : β} :
    x >>= f = .ok b ↔ ∃ a, x = .ok a ∧ f a = .ok b := by
  refine ⟨exists_of_bind_ok, ?_⟩
  rintro ⟨a, rfl, h⟩
  exact h

theorem toOption_eq_some_iff {ε α : Type} {x : Except ε α} {a : α} :
    x.toOption = some a ↔ x = .ok a := by
  cases x <;> simp [Except.toOption]

theorem mapError_eq_ok_iff {ε ε' α : Type} {f : ε → ε'} {x : Except ε α} {a : α} :
    x.mapError f = .ok a ↔ x = .ok a := by
  cases x <;> simp [Except.mapError]

/-! ### Changes of a hierarchy -/

namespace Node

variable {name : String} {n m : Node} {entries : Listing} {place : Place}

theorem wellFormed_nil : (Node.directory []).WellFormed :=
  .directory (by simp) (by simp) (by simp)

theorem mem_putEntry {e : String × Node} (h : e ∈ putEntry name n entries) :
    e = (name, n) ∨ e ∈ entries := by
  induction entries with
  | nil => exact .inl (List.mem_singleton.1 h)
  | cons a r ih =>
    rw [putEntry] at h
    split at h
    · rcases List.mem_cons.1 h with h | h
      · exact .inl h
      · exact .inr (List.mem_cons_of_mem _ h)
    · rcases List.mem_cons.1 h with rfl | h
      · exact .inr List.mem_cons_self
      · rcases ih h with h | h
        · exact .inl h
        · exact .inr (List.mem_cons_of_mem _ h)

theorem nodup_putEntry (h : (entries.map (·.1)).Nodup) :
    ((putEntry name n entries).map (·.1)).Nodup := by
  induction entries with
  | nil => simp [putEntry]
  | cons a r ih =>
    rw [List.map_cons, List.nodup_cons] at h
    rw [putEntry]
    split
    · next heq =>
      subst heq
      rw [List.map_cons, List.nodup_cons]
      exact h
    · next hne =>
      rw [List.map_cons, List.nodup_cons]
      refine ⟨?_, ih h.2⟩
      intro hmem
      obtain ⟨e, he, heq⟩ := List.mem_map.1 hmem
      rcases mem_putEntry he with rfl | he
      · exact hne heq.symm
      · exact h.1 (List.mem_map.2 ⟨e, he, heq⟩)

theorem WellFormed.putEntry (h : (Node.directory entries).WellFormed) (hname : IsEntryName name)
    (hn : n.WellFormed) : (Node.directory (Node.putEntry name n entries)).WellFormed := by
  refine .directory ?_ (nodup_putEntry h.nodup) ?_
  · intro e he
    rcases mem_putEntry he with rfl | he
    · exact hname
    · exact h.isEntryName e he
  · intro e he
    rcases mem_putEntry he with rfl | he
    · exact hn
    · exact h.entry e he

theorem WellFormed.removeEntry (h : (Node.directory entries).WellFormed) (name : String) :
    (Node.directory (Node.removeEntry name entries)).WellFormed := by
  refine .directory ?_ ?_ ?_
  · intro e he
    exact h.isEntryName e (List.mem_filter.1 he).1
  · exact h.nodup.sublist (List.filter_sublist.map _)
  · intro e he
    exact h.entry e (List.mem_filter.1 he).1

/-- A change of one directory keeps a hierarchy well-formed if it keeps that directory so. -/
theorem WellFormed.change {f : Listing → Listing}
    (hf : ∀ entries, (Node.directory entries).WellFormed → (Node.directory (f entries)).WellFormed)
    (h : n.WellFormed) (place : Place) : (Node.change f place n).WellFormed := by
  induction place generalizing n with
  | nil =>
    cases n with
    | directory entries => exact hf entries h
    | _ => exact h
  | cons name names ih =>
    cases n with
    | directory entries =>
      rw [Node.change]
      split
      · next m hm =>
        have hentry := mem_of_lookup hm
        exact h.putEntry (h.isEntryName _ hentry) (ih (h.entry _ hentry))
      · exact h
    | _ => exact h

theorem isEntryName_of_find? (h : n.WellFormed) (hfind : n.find? place = some m) :
    ∀ name ∈ place, IsEntryName name := by
  induction place generalizing n with
  | nil => simp
  | cons first rest ih =>
    cases n with
    | directory entries =>
      obtain ⟨m', hm', hrest⟩ := find?_directory_cons.1 hfind
      rw [List.forall_mem_cons]
      exact ⟨h.isEntryName _ (mem_of_lookup hm'), ih (h.entry _ (mem_of_lookup hm')) hrest⟩
    | _ => cases hfind

end Node

namespace FileSystem

/-- Is the hierarchy of a file system well-formed? -/
def WellFormed (fs : FileSystem) : Prop :=
  fs.root.WellFormed

instance (fs : FileSystem) : Decidable fs.WellFormed :=
  inferInstanceAs (Decidable fs.root.WellFormed)

/-! ### Where paths lead -/

/-- Is a spot what it says: the entry at its place, or a name that an entry can have? -/
def Spot.Fits (root : Node) : Spot → Prop
  | .found place n => root.find? place = some n
  | .vacant _ name _ => IsEntryName name

/-- A piece of a path that is neither silent nor leads upwards is a name. -/
theorem isEntryName_ofList {piece : List Char} (hslash : '/' ∉ piece)
    (hsilent : ¬isSilent piece = true) (hparent : ¬piece = ['.', '.']) :
    IsEntryName (String.ofList piece) := by
  rw [isSilent, Bool.or_eq_true, not_or, List.isEmpty_iff, beq_iff_eq] at hsilent
  have hne : ∀ other : String, piece ≠ other.toList → String.ofList piece ≠ other := by
    rintro other h rfl
    exact h String.toList_ofList.symm
  refine ⟨hne "" hsilent.1, hne "." hsilent.2, hne ".." hparent, ?_⟩
  rw [String.toList_ofList]
  exact hslash

/-- The pieces of a path lead to a spot that is what it says, if links do. -/
theorem fits_of_walkPieces {root : Node} {followLast : Bool}
    {onLink : Place → List (List Char) → Except FileError Spot} {place : Place}
    {pieces : List (List Char)} {spot : Spot}
    (hlink : ∀ place pieces spot, (∀ piece ∈ pieces, '/' ∉ piece) →
      onLink place pieces = .ok spot → spot.Fits root)
    (hpieces : ∀ piece ∈ pieces, '/' ∉ piece)
    (h : walkPieces root followLast onLink place pieces = .ok spot) : spot.Fits root := by
  induction pieces generalizing place with
  | nil =>
    rw [walkPieces] at h
    split at h
    · next n hn =>
      cases h
      exact hn
    · cases h
  | cons piece rest ih =>
    obtain ⟨hpiece, hrest⟩ := List.forall_mem_cons.1 hpieces
    rw [walkPieces] at h
    split at h
    · next entries hentries =>
      dsimp only at h
      split at h
      · exact ih hrest h
      · next hsilent =>
        split at h
        · exact ih hrest h
        · next hparent =>
          split at h
          · cases h
          · split at h
            · -- the name is not there
              split at h
              · cases h
                exact isEntryName_ofList hpiece hsilent hparent
              · cases h
            · -- a link is either where the path ends or where it goes on
              next target hentry =>
              split at h
              · cases h
                exact Node.find?_append_singleton hentries hentry
              · split at h
                · cases h
                · apply hlink _ _ _ _ h
                  intro q hq
                  rcases List.mem_append.1 hq with hq | hq
                  · exact sep_notMem_of_mem_split hq
                  · exact hrest q hq
            · exact ih hrest h
    · cases h
    · cases h

theorem fits_of_walkLinks {root : Node} {followLast : Bool} {links : Nat} {place : Place}
    {pieces : List (List Char)} {spot : Spot} (hpieces : ∀ piece ∈ pieces, '/' ∉ piece)
    (h : walkLinks root followLast links place pieces = .ok spot) : spot.Fits root := by
  -- each link that is followed leaves one link less; what it leads to is again made of pieces
  induction links generalizing place pieces spot with
  | zero =>
    apply fits_of_walkPieces _ hpieces h
    intro _ _ _ _ herror
    cases herror
  | succ links ih => exact fits_of_walkPieces (fun _ _ _ hpieces h => ih hpieces h) hpieces h

variable {fs fs' : FileSystem} {p : Path}

/-- **A path leads to a spot that is what it says.** -/
theorem fits_of_spot {followLast : Bool} {spot : Spot} (h : fs.spot followLast p = .ok spot) :
    spot.Fits fs.root := by
  obtain ⟨-, -, hwalk⟩ := exists_of_bind_ok h
  exact fits_of_walkLinks (fun _ => sep_notMem_of_mem_split) hwalk

theorem find?_of_locate {place : Place} {n : Node} (h : fs.locate p = .ok (place, n)) :
    fs.root.find? place = some n := by
  obtain ⟨spot, hspot, hfound⟩ := exists_of_bind_ok h
  cases spot with
  | vacant directory name slash => cases hfound
  | found place' n' =>
    cases hfound
    exact fits_of_spot hspot

/-- What a path leads to in a well-formed file system is well-formed. -/
theorem wellFormed_of_locate {place : Place} {n : Node} (hfs : fs.WellFormed)
    (h : fs.locate p = .ok (place, n)) : n.WellFormed :=
  Node.WellFormed.find? hfs (find?_of_locate h)

theorem wellFormed_of_list {entries : Listing} (hfs : fs.WellFormed)
    (h : fs.list p = .ok entries) : (Node.directory entries).WellFormed := by
  obtain ⟨⟨place, n⟩, hlocate, hlisted⟩ := exists_of_bind_ok h
  cases n with
  | directory entries' =>
    cases hlisted
    exact wellFormed_of_locate hfs hlocate
  | _ => cases hlisted

/-! ### Plainest paths -/

theorem canonical_eq_ok_iff {path : Path} : fs.canonical p = .ok path ↔
    ∃ place n, fs.locate p = .ok (place, n) ∧ fs.fitsWay p = true ∧ path = pathOf place := by
  rw [canonical]
  cases hlocate : fs.locate p with
  | error e => simp [bind, Except.bind]
  | ok found =>
    obtain ⟨place, n⟩ := found
    cases hfits : fs.fitsWay p with
    | false => simp [bind, Except.bind]
    | true => simp [bind, Except.bind, pure, Except.pure, eq_comm]

/-- A path has no plainest spelling if it leads nowhere, or if there is an entry on its way with a path that
is too long. -/
theorem canonical_eq_error_iff : (∃ e, fs.canonical p = .error e) ↔ fs.has p = false ∨ fs.fitsWay p = false := by
  rw [canonical, has]
  cases fs.locate p with
  | error e => simp [bind, Except.bind, Except.isOk, Except.toBool]
  | ok found => cases fs.fitsWay p <;> simp [bind, Except.bind, pure, Except.pure, Except.isOk, Except.toBool]

/-- Which entries are passed depends on the links alone. -/
theorem fitsPieces_congr {root root' : Node}
    (h : ∀ place, linkTarget? root' place = linkTarget? root place)
    {onLink onLink' : Place → List (List Char) → Bool}
    (honLink : ∀ place pieces, onLink' place pieces = onLink place pieces) (place : Place)
    (pieces : List (List Char)) : fitsPieces root' onLink' place pieces = fitsPieces root onLink place pieces := by
  induction pieces generalizing place with
  | nil => rfl
  | cons piece rest ih => simp only [fitsPieces, h, honLink, ih]

theorem fitsLinks_congr {root root' : Node}
    (h : ∀ place, linkTarget? root' place = linkTarget? root place) (links : Nat) (place : Place)
    (pieces : List (List Char)) : fitsLinks root' links place pieces = fitsLinks root links place pieces := by
  induction links generalizing place pieces with
  | zero => exact fitsPieces_congr h (fun _ _ => rfl) place pieces
  | succ links ih => exact fitsPieces_congr h ih place pieces

theorem fitsWay_congr (hcurrent : fs'.current = fs.current)
    (h : ∀ place, linkTarget? fs'.root place = linkTarget? fs.root place) (p : Path) :
    fs'.fitsWay p = fs.fitsWay p := by
  rw [fitsWay, fitsWay, start, start, hcurrent]
  exact fitsLinks_congr h _ _ _

/-! ### Paths that can be followed -/

/-- A directory above a path that can be followed has a path that can be followed. -/
theorem fits_of_fits_below {names : List String} (hnames : ∀ name ∈ names, IsEntryName name)
    (h : fits (p.below names) = true) : fits p = true := by
  rw [fits, decide_eq_true_iff] at h ⊢
  exact Nat.le_trans (Path.size_le_below p hnames) h

/-! ### What programs leave -/

theorem WellFormed.put {name : String} {n : Node} (hfs : fs.WellFormed) (hname : IsEntryName name)
    (hn : n.WellFormed) (directory : Place) : (fs.put directory name n).WellFormed :=
  Node.WellFormed.change (fun _ h => h.putEntry hname hn) hfs directory

theorem WellFormed.drop (hfs : fs.WellFormed) (directory : Place) (name : String) :
    (fs.drop directory name).WellFormed :=
  Node.WellFormed.change (fun _ h => h.removeEntry name) hfs directory

theorem WellFormed.putAt {place : Place} {n : Node} (hfs : fs.WellFormed)
    (hplace : ∀ name ∈ place, IsEntryName name) (hn : n.WellFormed) : (fs.putAt place n).WellFormed := by
  rw [FileSystem.putAt]
  split
  · next directory name hsplit =>
    obtain ⟨name', hlast, heq⟩ := Option.map_eq_some_iff.1 hsplit
    cases heq
    exact hfs.put (hplace _ (List.mem_of_getLast? hlast)) hn _
  · exact hfs

theorem WellFormed.dropAt (hfs : fs.WellFormed) (place : Place) : (fs.dropAt place).WellFormed := by
  rw [FileSystem.dropAt]
  split
  · exact hfs.drop _ _
  · exact hfs

theorem WellFormed.write {contents : Bytes} (hfs : fs.WellFormed) (h : fs.write p contents = .ok fs') :
    fs'.WellFormed := by
  obtain ⟨spot, hspot, hrest⟩ := exists_of_bind_ok h
  have hfits := fits_of_spot hspot
  cases spot with
  | found place n =>
    cases n with
    | file _ =>
      cases hrest
      exact hfs.putAt (Node.isEntryName_of_find? hfs hfits) (.file contents)
    | _ => cases hrest
  | vacant directory name slash =>
    dsimp only at hrest
    split at hrest
    · cases hrest
    · cases hrest
      exact hfs.put hfits (.file contents) directory

theorem WellFormed.make {n : Node} (hfs : fs.WellFormed) (hn : n.WellFormed)
    (h : fs.make p n = .ok fs') : fs'.WellFormed := by
  obtain ⟨spot, hspot, hrest⟩ := exists_of_bind_ok h
  have hfits := fits_of_spot hspot
  cases spot with
  | found place n => cases hrest
  | vacant directory name slash =>
    cases hrest
    exact hfs.put hfits hn directory

theorem WellFormed.makeDirectory (hfs : fs.WellFormed) (h : fs.makeDirectory p = .ok fs') :
    fs'.WellFormed :=
  hfs.make Node.wellFormed_nil h

theorem WellFormed.ensureDirectory (hfs : fs.WellFormed) (h : fs.ensureDirectory p = .ok fs') :
    fs'.WellFormed := by
  rw [FileSystem.ensureDirectory] at h
  split at h
  · next made hmade =>
    cases h
    exact hfs.makeDirectory hmade
  · split at h
    · cases h
      exact hfs
    · cases h

/-- Directories that were made on the way stay, also if the last one cannot be made. -/
theorem WellFormed.ensureAll (hfs : fs.WellFormed) (ps : List Path) : (fs.ensureAll ps).1.WellFormed := by
  induction ps with
  | nil => exact hfs
  | cons p parents ih =>
    rw [FileSystem.ensureAll]
    split
    · exact hfs
    · split
      · next made hmade => exact hfs.ensureDirectory hmade
      · split
        · next above e habove =>
          rw [habove] at ih
          exact ih
        · next above u habove =>
          rw [habove] at ih
          split
          · next made hmade => exact WellFormed.ensureDirectory ih hmade
          · exact ih
      · exact hfs

theorem WellFormed.rename {q : Path} (hfs : fs.WellFormed) (h : fs.rename p q = .ok fs') :
    fs'.WellFormed := by
  obtain ⟨spot, hspot, hrest⟩ := exists_of_bind_ok h
  cases spot with
  | vacant directory name slash => cases hrest
  | found place n =>
    have hn : n.WellFormed := Node.WellFormed.find? hfs (fits_of_spot hspot)
    obtain ⟨-, -, hrest⟩ := exists_of_bind_ok hrest
    obtain ⟨target, htarget, hrest⟩ := exists_of_bind_ok hrest
    have hfits := fits_of_spot htarget
    split at hrest
    · cases hrest
    · split at hrest
      · cases hrest
      · cases target with
        | found other old =>
          dsimp only at hrest
          split at hrest
          · cases hrest
            exact hfs
          · -- the names on the way to the other place are fit before the entry is taken away
            obtain ⟨-, -, hmoved⟩ := exists_of_bind_ok hrest
            cases hmoved
            exact (hfs.dropAt place).putAt (Node.isEntryName_of_find? hfs hfits) hn
        | vacant directory name slash =>
          cases hrest
          exact (hfs.dropAt place).put hfits hn directory

theorem WellFormed.remove (hfs : fs.WellFormed) (h : fs.remove p = .ok fs') : fs'.WellFormed := by
  obtain ⟨spot, hspot, hrest⟩ := exists_of_bind_ok h
  cases spot with
  | vacant directory name slash => cases hrest
  | found place n =>
    cases hrest
    exact hfs.dropAt place

/-- The file systems that programs can make, from one that holds nothing. -/
inductive Made : FileSystem → Prop
  | empty : Made .empty
  | enter {before : FileSystem} (current : Place) : Made before → Made { before with current }
  | write {before after : FileSystem} {p : Path} {contents : Bytes} :
      Made before → before.write p contents = .ok after → Made after
  | makeLink {before after : FileSystem} {p : Path} {target : String} :
      Made before → before.make p (.link target) = .ok after → Made after
  | makeOther {before after : FileSystem} {p : Path} :
      Made before → before.make p .other = .ok after → Made after
  | makeDirectories {before : FileSystem} (p : Path) : Made before → Made (before.makeDirectories p).1
  | rename {before after : FileSystem} {p q : Path} :
      Made before → before.rename p q = .ok after → Made after
  | remove {before after : FileSystem} {p : Path} :
      Made before → before.remove p = .ok after → Made after

/-- **Every file system that programs have made is well-formed.** -/
theorem Made.wellFormed (h : Made fs) : fs.WellFormed := by
  induction h with
  | empty => exact Node.wellFormed_nil
  | enter current _ ih => exact ih
  | write _ hwrite ih => exact ih.write hwrite
  | makeLink _ hmake ih => exact ih.make (.link _) hmake
  | makeOther _ hmake ih => exact ih.make .other hmake
  | makeDirectories p _ ih => exact ih.ensureAll _
  | rename _ hrename ih => exact ih.rename hrename
  | remove _ hremove ih => exact ih.remove hremove

end FileSystem

end ImportCensus
