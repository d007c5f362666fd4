/-
ImportCensus/Proofs/Report/Format.lean

A report is read back from its JSON text.

Nothing that a report holds is lost between its data and the report that is read from the data: every part
of the report is taken up by the decoder for that part.  Two parts are read in another way than they are
written.  The entries of the file map come in the order of their texts, while the map is ordered by
component; and a tree is read with a bound on its depth, which is that of the data and so never met.

Main statement: a report is read from its JSON text if its counts fit into 64 bits (`read_toJson`).
-/
import ImportCensus.Proofs.Datum.Decoder
import ImportCensus.Proofs.Json.Printer
import ImportCensus.Report.Format

namespace ImportCensus

open Datum RecordReader

namespace Decoder

/-! ### Values -/

theorem path_text (p : Path) : path (.text p.text) = .ok p := rfl

theorem unsigned_ofNat {kind : Unsigned} {n : Nat} (h : n < kind.limit) :
    unsigned kind (ofNat n) = .ok n :=
  unsigned_int h

theorem nullable_ofOption {α : Type} {encode : α → Datum} {decode : Decoder α} {o : Option α}
    (h : ∀ a ∈ o, decode (encode a) = .ok a) (hnull : ∀ a, encode a ≠ .null) :
    nullable decode (ofOption encode o) = .ok o := by
  cases o with
  | none => rfl
  | some a =>
    have hread : decode (encode a) = .ok a := h a rfl
    have hvalue : nullable decode (encode a) = (decode (encode a)).map some := by
      rw [nullable]
      exact hnull a
    rw [ofOption, hvalue, hread]
    rfl

theorem nullable_ofTextOption (o : Option String) : nullable text (ofOption .text o) = .ok o :=
  nullable_ofOption (fun _ _ => rfl) (fun _ => Datum.noConfusion)

theorem list_ofTexts (l : List String) : list text (ofTexts l) = .ok l :=
  list_map fun _ _ => rfl

theorem list_ofPaths (l : List Path) : list path (ofPaths l) = .ok l :=
  list_map fun _ _ => rfl

theorem packageName_text (n : PackageName) : packageName (.text n.text) = .ok n := by
  show packageNameOf n.text = .ok n
  rw [packageNameOf, PackageName.ofText?_text]

theorem packageSet_ofPackages (s : PackageSet) : packageSet (ofPackages s) = .ok s := by
  have hread : list packageName (ofPackages s) = .ok s.toList :=
    list_map fun n _ => packageName_text n
  rw [packageSet, hread]
  exact congrArg Except.ok s.ofList_toList

/-! ### The file map -/

/-- The entries of a file map are read in the order of their texts, and come back to their places. -/
theorem fileMap_table (m : FileMap) :
    fileMap (.table (m.entries.map fun e => (e.1.text, ofPackages e.2))) = .ok m := by
  have hkeys : (m.entries.map fun e => (e.1.text, ofPackages e.2)).Pairwise KeyNe := by
    refine List.pairwise_map.2 (m.sorted.imp ?_)
    rintro ⟨⟨p⟩, _⟩ ⟨⟨q⟩, _⟩ hlt heq
    -- paths that are spelled alike are one path, and no path comes twice
    obtain rfl : p = q := Std.LawfulEqOrd.eq_of_compare heq
    exact hlt.keyNe Std.ReflOrd.compare_self
  have hreads : List.Forall₂ (ReadsEntry (fun k => .ok ⟨k⟩) packageSet)
      (m.entries.map fun e => (e.1.text, ofPackages e.2)) m.entries :=
    List.forall₂_map_left_iff.2
      (List.forall₂_same.2 fun e _ => ⟨rfl, packageSet_ofPackages e.2⟩)
  obtain ⟨l, hperm, hread⟩ := entries_table hkeys hreads
  have hdiffer : l.Pairwise KeyNe :=
    (hperm.pairwise_iff KeyNe.symm).2 (m.sorted.imp KeyLt.keyNe)
  have hsame : SortedMap.ofList l = m :=
    SortedMap.eq_of_perm ((SortedMap.entries_ofList hdiffer).trans hperm)
  rw [fileMap, hread]
  exact congrArg Except.ok hsame

/-! ### Trees -/

/-- The word for a tag. -/
def TreeTag.word : TreeTag → Datum
  | .directory => .text "directory"
  | .file => .text "file"

theorem treeTag_word (tag : TreeTag) : treeTag tag.word = .ok tag := by
  cases tag <;> rfl

theorem splitTag_table {fields : List (String × Datum)} {tag : TreeTag}
    (h : Datum.lookup "type" fields = some tag.word) :
    splitTag (.table fields) = .ok (tag, .table fields) := by
  simp only [splitTag, h, treeTag_word]
  rfl

theorem treeFile_table (name : String) (path : Path) :
    treeFile (.table [("type", .text "file"), ("name", .text name), ("path", .text path.text)])
      = .ok (.file name path) := by
  apply Reads.record
  refine .seq (.map (.field ?_ (text_text name)) _) (.field ?_ (path_text path)) <;>
    simp [Datum.lookup]

theorem treeDirectory_table {child : Decoder SourceTree} {name : String} {path : Path}
    {items : List Datum} {children : List SourceTree} (h : list child (.list items) = .ok children) :
    treeDirectory child
        (.table [("type", .text "directory"), ("name", .text name), ("path", .text path.text),
          ("children", .list items)])
      = .ok (.directory name path children) := by
  apply Reads.record
  refine .seq (.seq (.map (.field ?_ (text_text name)) _) (.field ?_ (path_text path))) (.field ?_ h) <;>
    simp [Datum.lookup]

mutual

/-- A tree is read from its data with any bound that its depth allows. -/
theorem treeOfDepth_toDatum (t : SourceTree) {bound : Nat} (h : t.toDatum.depth ≤ bound) :
    treeOfDepth bound t.toDatum = .ok t := by
  match t with
  | .file name path =>
    have htag : splitTag (SourceTree.file name path).toDatum
        = .ok (.file, (SourceTree.file name path).toDatum) :=
      splitTag_table (by simp [Datum.lookup, TreeTag.word])
    obtain ⟨bound, rfl⟩ : ∃ n, bound = n + 1 := Nat.exists_eq_add_one.2 (by
      simp only [SourceTree.toDatum, Datum.depth] at h
      omega)
    rw [treeOfDepth, htag]
    exact treeFile_table name path
  | .directory name path children =>
    have htag : splitTag (SourceTree.directory name path children).toDatum
        = .ok (.directory, (SourceTree.directory name path children).toDatum) :=
      splitTag_table (by simp [Datum.lookup, TreeTag.word])
    -- its data are two levels deeper than those of what is in it: a table, and a list in that
    simp only [SourceTree.toDatum, Datum.depth, Datum.fieldDepths] at h
    obtain ⟨bound, rfl⟩ : ∃ n, bound = n + 1 := Nat.exists_eq_add_one.2 (by omega)
    have hchildren : list (treeOfDepth bound) (.list (SourceTree.toData children)) = .ok children :=
      itemsFrom_toData children (by omega) 0
    rw [treeOfDepth, htag]
    exact treeDirectory_table hchildren

/-- What is in a directory is read tree by tree. -/
theorem itemsFrom_toData (ts : List SourceTree) {bound : Nat}
    (h : Datum.depths (SourceTree.toData ts) ≤ bound) (position : Nat) :
    itemsFrom (treeOfDepth bound) position (SourceTree.toData ts) = .ok ts := by
  match ts with
  | [] => rfl
  | t :: ts =>
    rw [SourceTree.toData, Datum.depths] at h
    have hfirst : treeOfDepth bound t.toDatum = .ok t := treeOfDepth_toDatum t (by omega)
    have hrest := itemsFrom_toData ts (Nat.le_trans (Nat.le_max_right _ _) h) (position + 1)
    rw [SourceTree.toData, itemsFrom, hfirst, hrest]
    rfl

end

theorem tree_toDatum (t : SourceTree) : tree t.toDatum = .ok t :=
  treeOfDepth_toDatum t (Nat.le_succ _)

end Decoder

/-! ### Counts of 64 bits -/

/-- Do the counts of a record fit into 64 bits? -/
def PackageMetadata.HasWords (m : PackageMetadata) : Prop :=
  m.maintainers < UInt64.size ∧ m.weeklyDownloads < UInt64.size

instance (m : PackageMetadata) : Decidable m.HasWords :=
  inferInstanceAs (Decidable (_ ∧ _))

/-- Do the counts of an entry fit into 64 bits? -/
def Report.Entry.HasWords (e : Report.Entry) : Prop :=
  e.count < UInt64.size ∧ ∀ m ∈ e.metadata, m.HasWords

instance (e : Report.Entry) : Decidable e.HasWords :=
  inferInstanceAs (Decidable (_ ∧ ∀ m ∈ e.metadata, m.HasWords))

/-- Do the numbers of a report fit into 64 bits? -/
def Report.Summary.HasWords (s : Report.Summary) : Prop :=
  s.filesScanned < UInt64.size ∧ s.filesAnalyzed < UInt64.size ∧
    s.packagesFound < UInt64.size ∧ s.degradedPackages < UInt64.size

instance (s : Report.Summary) : Decidable s.HasWords :=
  inferInstanceAs (Decidable (_ ∧ _ ∧ _ ∧ _))

/-- Do all counts of a report fit into 64 bits? -/
def Report.HasWords (r : Report) : Prop :=
  (∀ e ∈ r.packages, e.HasWords) ∧ r.summary.HasWords

instance (r : Report) : Decidable r.HasWords :=
  inferInstanceAs (Decidable ((∀ e ∈ r.packages, e.HasWords) ∧ r.summary.HasWords))

namespace Decoder

/-! ### Records -/

theorem packageMetadata_toDatum {m : PackageMetadata} (h : m.HasWords) :
    packageMetadata m.toDatum = .ok m := by
  obtain ⟨name, description, version, license, homepage, repository, maintainers, published,
    dependencies, downloads, alternatives, error⟩ := m
  apply Reads.record
  refine .seq (.seq (.seq (.seq (.seq (.seq (.seq (.seq (.seq (.seq (.seq
    (.map (.field ?_ (packageName_text name)) _)
    (.field ?_ (text_text description))) (.field ?_ (text_text version)))
    (.field ?_ (text_text license))) (.field ?_ (nullable_ofTextOption homepage)))
    (.field ?_ (nullable_ofTextOption repository))) (.field ?_ (unsigned_ofNat h.1)))
    (.field ?_ (nullable_ofTextOption published))) (.field ?_ (list_ofTexts dependencies)))
    (.field ?_ (unsigned_ofNat h.2))) (.field ?_ (list_ofTexts alternatives))) ?reason
  case reason =>
    -- the one field that is left out where there is nothing to write
    cases error with
    | none => exact .absent (by simp [Datum.lookup])
    | some e => exact .field (d := .text e) (by simp [Datum.lookup]) rfl
  all_goals cases error <;> simp [Datum.lookup]

theorem reportEntry_toDatum {e : Report.Entry} (h : e.HasWords) : reportEntry e.toDatum = .ok e := by
  obtain ⟨name, count, files, metadata⟩ := e
  have hmetadata : nullable packageMetadata (ofOption PackageMetadata.toDatum metadata) = .ok metadata :=
    nullable_ofOption (fun m hm => packageMetadata_toDatum (h.2 m hm)) fun _ => Datum.noConfusion
  apply Reads.record
  refine .seq (.seq (.seq (.map (.field ?_ (packageName_text name)) _)
    (.field ?_ (unsigned_ofNat h.1))) (.field ?_ (list_ofPaths files))) (.field ?_ hmetadata) <;>
    simp [Datum.lookup]

theorem summary_toDatum {s : Report.Summary} (h : s.HasWords) : summary s.toDatum = .ok s := by
  obtain ⟨scanned, analyzed, found, degraded⟩ := s
  apply Reads.record
  refine .seq (.seq (.seq (.map (.field ?_ (unsigned_ofNat h.1)) _)
    (.field ?_ (unsigned_ofNat h.2.1))) (.field ?_ (unsigned_ofNat h.2.2.1)))
    (.field ?_ (unsigned_ofNat h.2.2.2)) <;>
    simp [Datum.lookup]

/-- A report is read from its data. -/
theorem report_toDatum {r : Report} (h : r.HasWords) : report r.toDatum = .ok r := by
  obtain ⟨t, files, deepDive, packages, numbers⟩ := r
  have htree : nullable tree (ofOption SourceTree.toDatum t) = .ok t := by
    refine nullable_ofOption (fun t _ => tree_toDatum t) fun t => ?_
    cases t <;> exact Datum.noConfusion
  have hpackages : list reportEntry (.list (packages.map Report.Entry.toDatum)) = .ok packages :=
    list_map fun e he => reportEntry_toDatum (h.1 e he)
  apply Reads.record
  refine .seq (.seq (.seq (.seq (.map (.field ?_ htree) _) (.field ?_ (fileMap_table files)))
    (.field ?_ (list_ofPaths deepDive))) (.field ?_ hpackages)) (.field ?_ (summary_toDatum h.2)) <;>
    simp [Datum.lookup]

end Decoder

/-! ### The numbers in a report -/

namespace Datum

theorem isIntegral_ofNat {n : Nat} (h : n < UInt64.size) : (ofNat n).isIntegral = true := by
  rw [ofNat, isIntegral, decide_eq_true_eq]
  omega

theorem areIntegral_map {α : Type} {encode : α → Datum} {l : List α}
    (h : ∀ a ∈ l, (encode a).isIntegral = true) : areIntegral (l.map encode) = true := by
  induction l with
  | nil => rfl
  | cons a l ih =>
    rw [List.map_cons, areIntegral, h a List.mem_cons_self, Bool.true_and]
    exact ih fun b hb => h b (List.mem_cons_of_mem a hb)

theorem haveIntegral_map {α : Type} {key : α → String} {encode : α → Datum} {l : List α}
    (h : ∀ a ∈ l, (encode a).isIntegral = true) :
    haveIntegral (l.map fun a => (key a, encode a)) = true := by
  induction l with
  | nil => rfl
  | cons a l ih =>
    rw [List.map_cons, haveIntegral, h a List.mem_cons_self, Bool.true_and]
    exact ih fun b hb => h b (List.mem_cons_of_mem a hb)

theorem isIntegral_ofOption {α : Type} {encode : α → Datum} {o : Option α}
    (h : ∀ a ∈ o, (encode a).isIntegral = true) : (ofOption encode o).isIntegral = true := by
  cases o with
  | none => rfl
  | some a => exact h a rfl

theorem isIntegral_ofTexts (l : List String) : (ofTexts l).isIntegral = true :=
  areIntegral_map fun _ _ => rfl

theorem isIntegral_ofPaths (l : List Path) : (ofPaths l).isIntegral = true :=
  areIntegral_map fun _ _ => rfl

theorem isIntegral_ofPackages (s : PackageSet) : (ofPackages s).isIntegral = true :=
  areIntegral_map fun _ _ => rfl

end Datum

mutual

theorem SourceTree.isIntegral_toDatum (t : SourceTree) : t.toDatum.isIntegral = true := by
  match t with
  | .file name path => rfl
  | .directory name path children =>
    simp [toDatum, isIntegral, haveIntegral, SourceTree.areIntegral_toData children]

theorem SourceTree.areIntegral_toData (ts : List SourceTree) :
    areIntegral (SourceTree.toData ts) = true := by
  match ts with
  | [] => rfl
  | t :: ts =>
    rw [toData, areIntegral, isIntegral_toDatum t, areIntegral_toData ts, Bool.and_self]

end

theorem PackageMetadata.isIntegral_toDatum {m : PackageMetadata} (h : m.HasWords) :
    m.toDatum.isIntegral = true := by
  have htext : ∀ o : Option String, (ofOption .text o).isIntegral = true :=
    fun o => isIntegral_ofOption fun _ _ => rfl
  rw [toDatum]
  cases m.error <;>
    simp [isIntegral, haveIntegral, htext, isIntegral_ofNat h.1, isIntegral_ofNat h.2,
      isIntegral_ofTexts]

theorem Report.Entry.isIntegral_toDatum {e : Report.Entry} (h : e.HasWords) :
    e.toDatum.isIntegral = true := by
  have hmetadata : (ofOption PackageMetadata.toDatum e.metadata).isIntegral = true :=
    isIntegral_ofOption fun m hm => PackageMetadata.isIntegral_toDatum (h.2 m hm)
  simp [toDatum, isIntegral, haveIntegral, isIntegral_ofNat h.1, isIntegral_ofPaths, hmetadata]

theorem Report.isIntegral_toDatum {r : Report} (h : r.HasWords) : r.toDatum.isIntegral = true := by
  have htree : (ofOption SourceTree.toDatum r.tree).isIntegral = true :=
    isIntegral_ofOption fun t _ => t.isIntegral_toDatum
  have hfiles : haveIntegral (r.files.entries.map fun e => (e.1.text, ofPackages e.2)) = true :=
    haveIntegral_map fun e _ => isIntegral_ofPackages e.2
  have hpackages : areIntegral (r.packages.map Report.Entry.toDatum) = true :=
    areIntegral_map fun e he => Entry.isIntegral_toDatum (h.1 e he)
  have hsummary : r.summary.toDatum.isIntegral = true := by
    obtain ⟨h₁, h₂, h₃, h₄⟩ := h.2
    simp [Report.Summary.toDatum, isIntegral, haveIntegral, isIntegral_ofNat, h₁, h₂, h₃, h₄]
  simp [toDatum, isIntegral, haveIntegral, htree, hfiles, hpackages, hsummary, isIntegral_ofPaths]

/-! ### Whole reports -/

/-- **A report is read back from its JSON text**: whatever the trees, paths, names and texts in it are, and
whichever of them are missing, if its counts fit into 64 bits and there is no limit to the nesting. -/
theorem Report.read_toJson (r : Report) (h : r.HasWords) :
    ∃ d, Json.read none r.toJson.toList = .ok d ∧ Decoder.report d = .ok r :=
  ⟨r.toDatum, Json.read_print (Report.isIntegral_toDatum h), Decoder.report_toDatum h⟩

namespace Report

/-- A report with quotes, a backslash, a control character and an accent in its texts, two spellings of a
directory, a set of two packages, a failed fetch and the greatest count. -/
def awkward : Report where
  tree := some (.directory "a \"b\"" ⟨"./p/"⟩
    [.directory "" ⟨"p\\q"⟩ [], .file "é.js" ⟨"p/é.js"⟩])
  files := .ofList
    [(⟨"p//b.js"⟩, .ofList ((PackageName.ofText? "@s/t").toList ++ (PackageName.ofText? "zod").toList)),
      (⟨"p/b/\n.js"⟩, .empty)]
  deepDive := [⟨"p//b.js"⟩]
  packages := (PackageName.ofText? "@s/t").toList.map fun name =>
    ⟨name, UInt64.size - 1, [⟨"p//b.js"⟩],
      some (.degraded name (String.ofList ['\t', Char.ofNat 1, '/', '€']))⟩
  summary := ⟨UInt64.size - 1, 2, 1, 1⟩

theorem read_toJson_awkward :
    awkward.HasWords ∧
      ∃ d, Json.read none awkward.toJson.toList = .ok d ∧ Decoder.report d = .ok awkward := by
  have h : awkward.HasWords := by decide
  exact ⟨h, read_toJson awkward h⟩

end Report

end ImportCensus
