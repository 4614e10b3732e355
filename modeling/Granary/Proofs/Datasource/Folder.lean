import Granary.Datasource.Folder
import Granary.Proofs.Files.Decoy
import Mathlib.Data.List.Dedup

/-!
# What is loaded from a folder

A folder is loaded as it should (`Loads`) if the store then has one record for every id that occurs
in the folder's own files, the last one with that id.  The path of the folder is a part of two
patterns, so this depends on the path: `loads_iff_plain` says that it may have none of the three
characters that are special in a pattern.  Where it has one, either the folder's own files are not
found, or those of another folder are found as well.
-/

namespace Granary.Store

open Files Outcome

/-! ## Records after one another -/

section

variable {s : Store} {ds : List Datasource} {id : String}

/-- The last of some records with an id. -/
def last? (ds : List Datasource) (id : String) : Option Datasource :=
  (ds.filter (·.id == id)).getLast?

theorem get?_foldl_insert : (ds.foldl insert s).records.get? id =
    (last? ds id).or (s.records.get? id) := by
  induction ds generalizing s with
  | nil => rfl
  | cons d ds ih =>
    rw [List.foldl_cons, ih, insert, Named.get?_set, last?, last?, List.filter_cons]
    by_cases hsame : d.id = id
    · rw [if_pos hsame, if_pos (beq_iff_eq.2 hsame), List.getLast?_cons]
      cases (ds.filter (·.id == id)).getLast? <;> rfl
    · rw [if_neg hsame, if_neg (mt beq_iff_eq.1 hsame)]

theorem nodup_ids_foldl_insert (h : (s.records.map (·.1)).Nodup) :
    ((ds.foldl insert s).records.map (·.1)).Nodup := by
  induction ds generalizing s with
  | nil => exact h
  | cons d ds ih => exact ih (Named.nodup_names_set h d.id d)

theorem mem_ids_foldl_insert : id ∈ (ds.foldl insert s).records.map (·.1) ↔
    id ∈ ds.map (·.id) ∨ id ∈ s.records.map (·.1) := by
  induction ds generalizing s with
  | nil => simp
  | cons d ds ih =>
    rw [List.foldl_cons, ih, insert, Named.mem_names_set, List.map_cons, List.mem_cons]
    tauto

/-- A store has as many records as there are different ids. -/
theorem size_foldl_insert (ds : List Datasource) :
    (ds.foldl insert {}).size = (ds.map (·.id)).dedup.length := by
  have hperm : ((ds.foldl insert {}).records.map (·.1)).Perm (ds.map (·.id)).dedup := by
    have hnodup : ((ds.foldl insert {}).records.map (·.1)).Nodup :=
      nodup_ids_foldl_insert (s := {}) List.nodup_nil
    refine (List.perm_ext_iff_of_nodup hnodup (List.nodup_dedup _)).2 fun id => ?_
    rw [mem_ids_foldl_insert, List.mem_dedup]
    exact or_iff_left List.not_mem_nil
  rw [size, ← hperm.length_eq, List.length_map]

end

/-! ## Files of a folder -/

/-- The texts of all entries of a directory whose names have an ending, in the order of their names.
-/
structure IsListing (ending : String) (entries : List (String × Entry))
    (files : List (String × String)) : Prop where
  perm : (files.map fun f => (f.1, Entry.file (.ok f.2))).Perm
    (entries.filter fun e => ending.toList.isSuffixOf e.1.toList)
  ascending : files.Pairwise fun a b => a.1 < b.1

theorem pairwise_children (s : Spot) : s.children.Pairwise fun a b => a.1 ≤ b.1 := by
  have hsorted : ∀ xs : Named Spot, (Named.sorted xs).Pairwise fun a b => a.1 ≤ b.1 := by
    intro xs
    have htotal : ∀ a b : String × Spot, decide (a.1 ≤ b.1) = false → decide (b.1 ≤ a.1) = true :=
      fun a b hab => decide_eq_true (le_of_not_ge (of_decide_eq_false hab))
    have htrans : ∀ a b c : String × Spot, decide (a.1 ≤ b.1) = true →
        decide (b.1 ≤ c.1) = true → decide (a.1 ≤ c.1) = true :=
      fun a b c hab hbc => decide_eq_true ((of_decide_eq_true hab).trans (of_decide_eq_true hbc))
    exact (pairwise_sortBy htotal htrans xs).imp of_decide_eq_true
  unfold Spot.children
  split
  · exact List.Pairwise.nil
  · exact hsorted _

/-- Entries in the order of their names are those of a list in which no name is there twice, if they
are the same in another order. -/
theorem eq_of_perm_of_ascending {α : Type} {xs ys : List (String × α)} (hperm : xs.Perm ys)
    (hxs : xs.Pairwise fun a b => a.1 ≤ b.1) (hys : ys.Pairwise fun a b => a.1 < b.1) :
    xs = ys := by
  have hnodup : (ys.map (·.1)).Nodup := List.pairwise_map.2 (hys.imp ne_of_lt)
  refine hperm.eq_of_pairwise (fun a b ha hb hab hba => ?_) hxs (hys.imp le_of_lt)
  exact List.inj_on_of_nodup_map hnodup (hperm.mem_iff.1 ha) hb (le_antisymm hab hba)

/-- The entries with an ending, in the order in which they are found. -/
theorem IsListing.children_eq {ending : String} {entries : List (String × Entry)}
    {files : List (String × String)} (h : IsListing ending entries files) (around : List Entry) :
    ((Spot.mk (.directory entries) around).children.filter
      fun c => ending.toList.isSuffixOf c.1.toList) =
      files.map fun f => (f.1, ⟨.file (.ok f.2), .directory entries :: around⟩) := by
  refine eq_of_perm_of_ascending ?_ ((pairwise_children _).filter _)
    (List.pairwise_map.2 h.ascending)
  have hplaced := h.perm.map fun e => (e.1, Spot.mk e.2 (.directory entries :: around))
  rw [List.map_map] at hplaced
  refine ((sortBy_perm _ _).filter _).trans ?_
  rw [List.filter_map]
  exact hplaced.symm

theorem foldlM_insertFile {around : List Entry} {files : List (String × String)}
    {ds : List Datasource} (h : files.mapM (fun f => Datasource.ofYaml f.2) = .ok ds) (s : Store) :
    (files.map fun f => Spot.mk (.file (.ok f.2)) around).foldlM insertFile s =
      .ok (ds.foldl insert s) := by
  rw [mapM_eq_ok] at h
  induction h generalizing s with
  | nil => rfl
  | @cons file d files ds hd _ ih =>
    have hinsert : insertFile s ⟨.file (.ok file.2), around⟩ = .ok (s.insert d) :=
      bind_eq_ok.2 ⟨file.2, rfl, bind_eq_ok.2 ⟨d, hd, rfl⟩⟩
    rw [List.map_cons, List.foldlM_cons, hinsert]
    exact ih (s.insert d)

/-! ## Folders -/

/-- The folder that a path leads to is loaded as it should. -/
def Loads (here : Spot) (folder : String) : Prop :=
  ∀ (entries : List (String × Entry)) (around : List Entry) (ymls yamls : List (String × String))
    (ds : List Datasource), here.find? folder = some ⟨.directory entries, around⟩ →
    IsListing ".yml" entries ymls → IsListing ".yaml" entries yamls →
    (ymls ++ yamls).mapM (fun file => Datasource.ofYaml file.2) = .ok ds →
    ∃ s, ofFolder here folder = .ok s ∧ s.size = (ds.map (·.id)).dedup.length ∧
      ∀ id schema, ({ s with defaultSchema := schema }).resolve id =
        match last? ds id with
        | some d => d.profile schema
        | none => .error (.unknownDatasource id)

/-- A folder is loaded file by file from where its two patterns lead. -/
theorem ofFolder_eq_ok {here : Spot} {folder : String} {s : Store} :
    ofFolder here folder = .ok s ↔ (here.find? folder).isSome ∧ ∃ ymls yamls,
      lookUp here (folder ++ "/*.yml") = .ok ymls ∧ lookUp here (folder ++ "/*.yaml") = .ok yamls ∧
        (ymls ++ yamls).foldlM insertFile {} = .ok s := by
  unfold ofFolder filePatterns
  cases here.find? folder with
  | none => simp [throw, throwThe, MonadExceptOf.throw, bind, Except.bind]
  | some t =>
    rw [Option.isNone_some, if_neg Bool.false_ne_true]
    simp only [List.foldlM_cons, List.foldlM_nil, List.foldlM_append, bind_eq_ok, pure_eq_ok]
    constructor
    · rintro ⟨first, ⟨ymls, hymls, hfirst⟩, _, ⟨yamls, hyamls, hlast⟩, rfl⟩
      exact ⟨rfl, ymls, yamls, hymls, hyamls, first, hfirst, hlast⟩
    · rintro ⟨_, ymls, yamls, hymls, hyamls, first, hfirst, hlast⟩
      exact ⟨first, ⟨ymls, hymls, hfirst⟩, s, ⟨yamls, hyamls, hlast⟩, rfl⟩

theorem loads_of_plain {here : Spot} {folder : String} (h : IsPlain folder.toList) :
    Loads here folder := by
  intro entries around ymls yamls ds hfound hyml hyaml hds
  have hlook : ∀ (ending : String) (files : List (String × String)), IsPlain ending.toList →
      separator ∉ ending.toList → IsListing ending entries files →
      lookUp here (folder ++ ("/*" ++ ending)) =
        .ok (files.map fun f => ⟨.file (.ok f.2), .directory entries :: around⟩) := by
    intro ending files hplain hsep hlisting
    rw [lookUp, parse_plain h hplain hsep]
    refine congrArg Except.ok ?_
    rw [Spot.matching_plain hfound, hlisting.children_eq, List.map_map]
    rfl
  have hymls := hlook ".yml" ymls (by decide) (by decide) hyml
  have hyamls := hlook ".yaml" yamls (by decide) (by decide) hyaml
  refine ⟨ds.foldl insert {}, ?_, size_foldl_insert ds, fun id schema => ?_⟩
  · refine ofFolder_eq_ok.2 ⟨by rw [hfound]; rfl, _, _, hymls, hyamls, ?_⟩
    rw [← List.map_append]
    exact foldlM_insertFile hds {}
  · rw [resolve, get?_foldl_insert]
    cases last? ds id <;> rfl

/-! ## Folders with special characters -/

/-- A file with the record of a shop. -/
def shopFile : String × String := ("shop.yml",
  "id: shop\ndriver: pgsql\nhost: db\ndatabase: shop\nusername: reader\n")

def shopRecord : Datasource where
  id := "shop"
  driver := "pgsql"
  host := "db"
  database := "shop"
  username := "reader"

theorem ofYaml_shopFile : Datasource.ofYaml shopFile.2 = .ok shopRecord := by
  have hread : (Datasource.ofYaml shopFile.2).toOption = some shopRecord := by decide +kernel
  exact toOption_eq_some.1 hread

/-- A folder that holds the record of a shop. -/
def shopFolder : Entry := .directory [(shopFile.1, .file (.ok shopFile.2))]

theorem isListing_shopFolder :
    IsListing ".yml" [(shopFile.1, .file (.ok shopFile.2))] [shopFile] ∧
      IsListing ".yaml" [(shopFile.1, .file (.ok shopFile.2))] [] :=
  ⟨⟨List.Perm.refl _, List.pairwise_singleton _ _⟩, ⟨List.Perm.refl _, List.Pairwise.nil⟩⟩

theorem isName_shopFile : IsName shopFile.1 :=
  ⟨by decide, by decide, by decide, by decide, by decide⟩

theorem isTree_shopFolder : shopFolder.IsTree :=
  .directory (List.forall_mem_singleton.2 isName_shopFile) (List.nodup_singleton _)
    (List.forall_mem_singleton.2 (.file _))

/-- All files that are taken are records. -/
theorem exists_record_of_insertFile {files : List Spot} {s t : Store}
    (h : files.foldlM insertFile s = .ok t) {file : Spot} (hfile : file ∈ files) :
    ∃ text d, file.entry.read = .ok text ∧ Datasource.ofYaml text = .ok d := by
  induction files generalizing s with
  | nil => exact absurd hfile List.not_mem_nil
  | cons first files ih =>
    rw [List.foldlM_cons, bind_eq_ok] at h
    obtain ⟨next, hnext, hrest⟩ := h
    obtain rfl | hfile := List.mem_cons.1 hfile
    · obtain ⟨text, htext, hinsert⟩ := bind_eq_ok.1 hnext
      obtain ⟨d, hd, _⟩ := bind_eq_ok.1 hinsert
      exact ⟨text, d, mapError_eq_ok.1 htext, hd⟩
    · exact ih hrest hfile

section

variable {folder : String} {names : List String}

/-- Names have one list of pieces. -/
theorem pieces_unique {ps qs : List (List Piece)}
    (hps : List.Forall₂ (fun name ps => pieces name.toList = .ok ps) names ps)
    (hqs : List.Forall₂ (fun name ps => pieces name.toList = .ok ps) names qs) : qs = ps :=
  Except.ok.inj ((mapM_eq_ok.2 hqs).symm.trans (mapM_eq_ok.2 hps))

/-- A folder that is loaded is loaded from where the pieces of its names lead. -/
theorem exists_matching_of_ok (hpath : IsPath folder names) {root : Entry}
    (hroot : root.isDirectory = true) {s : Store} (h : ofFolder ⟨root, []⟩ folder = .ok s) :
    ∃ ps, List.Forall₂ (fun name ps => pieces name.toList = .ok ps) names ps ∧
      (Spot.matching (merged (ps.map Part.ofPieces ++ [endingPart ".yml"])) ⟨root, []⟩ ++
        Spot.matching (merged (ps.map Part.ofPieces ++ [endingPart ".yaml"])) ⟨root, []⟩).foldlM
          insertFile {} = .ok s := by
  obtain ⟨_, ymls, yamls, hymls, hyamls, hload⟩ := ofFolder_eq_ok.1 h
  have hlook : ∀ (ending : String) (found : List Spot), IsPlain ending.toList →
      separator ∉ ending.toList → lookUp ⟨root, []⟩ (folder ++ ("/*" ++ ending)) = .ok found →
      ∃ ps, List.Forall₂ (fun name ps => pieces name.toList = .ok ps) names ps ∧
        found = Spot.matching (merged (ps.map Part.ofPieces ++ [endingPart ending]))
          ⟨root, []⟩ := by
    intro ending found hending hsep hfound
    obtain ⟨pattern, hparse, heq⟩ := bind_eq_ok.1 hfound
    obtain ⟨ps, hps, hmatching⟩ := hpath.matching_eq hending hsep (mapError_eq_ok.1 hparse)
    exact ⟨ps, hps, by rw [← hmatching hroot, ← pure_eq_ok.1 heq]⟩
  obtain ⟨ps, hps, rfl⟩ := hlook ".yml" ymls (by decide) (by decide) hymls
  obtain ⟨qs, hqs, rfl⟩ := hlook ".yaml" yamls (by decide) (by decide) hyamls
  obtain rfl := pieces_unique hps hqs
  exact ⟨qs, hps, hload⟩

/-- If the pieces of a name accept no name, what the folder holds is not found. -/
theorem not_loads_of_rejecting (hpath : IsPath folder names) (hne : folder ≠ "")
    {name : String} (hname : name ∈ names) {rejecting : List Piece}
    (hpieces : pieces name.toList = .ok rejecting)
    (hnone : ∀ other, IsName other → matchesText rejecting other.toList = false) :
    ∃ root : Entry, root.IsTree ∧ ¬ Loads ⟨root, []⟩ folder := by
  obtain ⟨root, hroot, hdirectory, hleads⟩ := exists_path hpath.each isTree_shopFolder rfl
  refine ⟨root, hroot, fun hloads => ?_⟩
  obtain ⟨outer, hwalk⟩ := hleads []
  have hfound := (hpath.find?_eq hne hdirectory []).trans hwalk
  have hrecords : [shopFile].mapM (fun file => Datasource.ofYaml file.2) = .ok [shopRecord] :=
    mapM_eq_ok.2 (.cons ofYaml_shopFile .nil)
  obtain ⟨s, hs, hsize, _⟩ := hloads _ outer [shopFile] [] [shopRecord] hfound
    isListing_shopFolder.1 isListing_shopFolder.2 hrecords
  obtain ⟨ps, hps, hload⟩ := exists_matching_of_ok hpath hdirectory hs
  obtain ⟨hspecial, hwild⟩ := wild_of_rejecting (hpath.each name hname) hpieces hnone
  have hpoint : rejecting.head? ≠ some (.char '.') := fun hhead =>
    hpath.visible name hname hspecial ((spells_of_pieces hpieces).head hhead)
  have hproper : Spot.IsProper ⟨root, []⟩ := ⟨hroot, fun e he => absurd he List.not_mem_nil⟩
  have hmem : rejecting ∈ ps := (mem_of_mapM (mapM_eq_ok.2 hps)).2 ⟨name, hname, hpieces⟩
  have hnowhere : ∀ ending : String,
      Spot.matching (merged (ps.map Part.ofPieces ++ [endingPart ending])) ⟨root, []⟩ = [] := by
    intro ending
    have hpart : .wild rejecting ∈ ps.map Part.ofPieces ++ [endingPart ending] :=
      List.mem_append_left _ (List.mem_map.2 ⟨rejecting, hmem, hwild⟩)
    have hdeep : Part.wild rejecting ≠ .deep := nofun
    exact Spot.matching_eq_nil hproper (Spot.mem_merged hdeep hpart) hpoint hnone
  rw [hnowhere, hnowhere] at hload
  obtain rfl := Except.ok.inj hload
  cases hsize

/-- A folder with a file that has no record. -/
def brokenFolder : Entry := .directory [(shopFile.1, .file (.ok ""))]

theorem isTree_brokenFolder : brokenFolder.IsTree :=
  .directory (List.forall_mem_singleton.2 isName_shopFile) (List.nodup_singleton _)
    (List.forall_mem_singleton.2 (.file _))

theorem isTree_empty : (Entry.directory []).IsTree :=
  .directory (fun _ he => absurd he List.not_mem_nil) List.nodup_nil
    (fun _ he => absurd he List.not_mem_nil)

/-- An empty folder is loaded as an empty store, if it is loaded as it should. -/
theorem exists_store_of_loads (hpath : IsPath folder names) (hne : folder ≠ "") {root : Entry}
    {outer : List Entry} (hloads : Loads ⟨root, []⟩ folder) (hdirectory : root.isDirectory = true)
    (hwalk : names.foldlM Spot.step? ⟨root, []⟩ = some ⟨.directory [], outer⟩) :
    ∃ s, ofFolder ⟨root, []⟩ folder = .ok s := by
  have hfound := (hpath.find?_eq hne hdirectory []).trans hwalk
  have hlisting : ∀ ending, IsListing ending [] [] := fun _ =>
    ⟨List.Perm.refl _, List.Pairwise.nil⟩
  obtain ⟨s, hs, _⟩ := hloads [] outer [] [] [] hfound (hlisting _) (hlisting _) rfl
  exact ⟨s, hs⟩

/-- If the pieces of all names accept names, what another folder holds is found as well. -/
theorem not_loads_of_accepting (hpath : IsPath folder names) (hne : folder ≠ "")
    (hspecial : ∃ name ∈ names, ¬ IsPlain name.toList)
    (hsome : ∀ name ∈ names, ∀ ps, pieces name.toList = .ok ps →
      ∃ other, IsName other ∧ matchesText ps other.toList = true) :
    ∃ root : Entry, root.IsTree ∧ ¬ Loads ⟨root, []⟩ folder := by
  by_contra hall
  push Not at hall
  -- That a tree with the empty folder is loaded at all says that all names are made of pieces.
  obtain ⟨root, hroot, hdirectory, hleads⟩ := exists_path hpath.each isTree_empty rfl
  obtain ⟨outer, hwalk⟩ := hleads []
  obtain ⟨s, hs⟩ := exists_store_of_loads hpath hne (hall root hroot) hdirectory hwalk
  obtain ⟨ps, hps, _⟩ := exists_matching_of_ok hpath hdirectory hs
  -- Beside the folder stands another one that its pieces accept.
  obtain ⟨decoys, hdecoys, hdiffer, haccept⟩ := exists_decoys hps hpath.each hsome
  have hfork : names ≠ decoys := by
    rintro rfl
    obtain ⟨name, hname, hplain⟩ := hspecial
    exact List.forall₂_same.1 hdiffer name hname hplain rfl
  obtain ⟨root, hroot, hdirectory, hleads⟩ := exists_fork hpath.each hdecoys hdiffer.length_eq hfork
    isTree_empty isTree_brokenFolder rfl rfl
  obtain ⟨⟨outer, hwalk⟩, outer', hwalk'⟩ := hleads []
  obtain ⟨s, hs⟩ := exists_store_of_loads hpath hne (hall root hroot) hdirectory hwalk
  obtain ⟨qs, hqs, hload⟩ := exists_matching_of_ok hpath hdirectory hs
  obtain rfl := pieces_unique hps hqs
  have hfile : (decoys ++ [shopFile.1]).foldlM Spot.step? ⟨root, []⟩ =
      some ⟨.file (.ok ""), brokenFolder :: outer'⟩ := by
    rw [List.foldlM_append, hwalk']
    exact foldlM_step?_cons isName_shopFile (get?_cons_self ..) [] outer'
  have hending : (endingPart ".yml").accepts shopFile.1 = true :=
    (matchesText_ending _ _).trans (by decide)
  have hmem := Spot.mem_matching (List.rel_append haccept (.cons hending .nil))
    (List.forall_mem_append.2 ⟨hdecoys, List.forall_mem_singleton.2 isName_shopFile⟩)
    (by simp [endingPart]) ⟨hroot, fun e he => absurd he List.not_mem_nil⟩ hfile
  obtain ⟨text, d, htext, hd⟩ := exists_record_of_insertFile hload (List.mem_append_left _ hmem)
  obtain rfl := Except.ok.inj htext
  have hnone : (Datasource.ofYaml "").toOption = none := by decide +kernel
  rw [hd] at hnone
  cases hnone

/-- A folder whose path has no special character is loaded as it should, wherever it is.  A path
made of names is loaded so in all trees only if it has none. -/
theorem loads_iff_plain : (IsPlain folder.toList → ∀ here, Loads here folder) ∧
    ∀ names, IsPath folder names →
      ((∀ root : Entry, root.IsTree → Loads ⟨root, []⟩ folder) ↔ IsPlain folder.toList) := by
  refine ⟨fun hplain here => loads_of_plain hplain, fun names hpath => ⟨fun hloads => ?_,
    fun hplain root _ => loads_of_plain hplain⟩⟩
  by_contra hspecial
  have hne : folder ≠ "" := by
    rintro rfl
    exact hspecial fun c hc => absurd hc List.not_mem_nil
  have hfails : ∃ root : Entry, root.IsTree ∧ ¬ Loads ⟨root, []⟩ folder := by
    by_cases hsome : ∀ name ∈ names, ∀ ps, pieces name.toList = .ok ps →
        ∃ other, IsName other ∧ matchesText ps other.toList = true
    · exact not_loads_of_accepting hpath hne (hpath.exists_special hspecial) hsome
    · push Not at hsome
      obtain ⟨name, hname, ps, hps, hnone⟩ := hsome
      exact not_loads_of_rejecting hpath hne hname hps fun other hother =>
        Bool.eq_false_iff.2 (hnone other hother)
  obtain ⟨root, hroot, hfails⟩ := hfails
  exact hfails (hloads root hroot)

end

/-- The folder of the shop under a name. -/
def shopTree (name : String) : Entry := .directory [(name, shopFolder)]

theorem find?_shopTree {name : String} (hname : IsName name) :
    Spot.find? ⟨shopTree name, []⟩ name = some ⟨shopFolder, [shopTree name]⟩ := by
  rw [Spot.find?_of_ne_empty hname.ne_empty, Text.parts_of_not_mem hname.no_separator,
    List.map_singleton, String.ofList_toList]
  exact foldlM_step?_cons hname (get?_cons_self ..) [] []

theorem loads_iff_plain_conf : (∃ s, ofFolder ⟨shopTree "conf", []⟩ "conf" = .ok s ∧ s.size = 1 ∧
      s.resolve "shop" = shopRecord.profile s.defaultSchema ∧
      s.resolve "crm" = .error (.unknownDatasource "crm")) ∧
    ∃ root : Entry, root.IsTree ∧ ¬ Loads ⟨root, []⟩ "srv/conf[1]" := by
  have hplain : IsPlain "conf".toList := by decide
  have hname : IsName "conf" := ⟨by decide, by decide, by decide, by decide, by decide⟩
  have hspecial : ¬ IsPlain "srv/conf[1]".toList := by decide
  have hpath : IsPath "srv/conf[1]" ["srv", "conf[1]"] := by
    refine ⟨.inl (by decide), List.forall_mem_cons.2 ⟨?_, List.forall_mem_singleton.2 ?_⟩, ?_⟩
    · exact ⟨by decide, by decide, by decide, by decide, by decide⟩
    · exact ⟨by decide, by decide, by decide, by decide, by decide⟩
    · exact List.forall_mem_cons.2
        ⟨fun _ => by decide, List.forall_mem_singleton.2 fun _ => by decide⟩
  refine ⟨?_, ?_⟩
  · obtain ⟨s, hs, hsize, hresolve⟩ := loads_iff_plain.1 hplain ⟨shopTree "conf", []⟩ _ _ [shopFile]
      [] [shopRecord] (find?_shopTree hname) isListing_shopFolder.1 isListing_shopFolder.2
      (mapM_eq_ok.2 (.cons ofYaml_shopFile .nil))
    exact ⟨s, hs, hsize, hresolve "shop" s.defaultSchema, hresolve "crm" s.defaultSchema⟩
  · by_contra hall
    push Not at hall
    exact hspecial ((loads_iff_plain.2 _ hpath).1 hall)

/-- Under a name with brackets the folder of the shop is loaded as if it were empty. -/
theorem not_loads_numbered : (shopTree "conf[1]").IsTree ∧
    (∃ s, ofFolder ⟨shopTree "conf[1]", []⟩ "conf[1]" = .ok s ∧ s.size = 0) ∧
    ¬ Loads ⟨shopTree "conf[1]", []⟩ "conf[1]" := by
  have hname : IsName "conf[1]" := ⟨by decide, by decide, by decide, by decide, by decide⟩
  have hload : (ofFolder ⟨shopTree "conf[1]", []⟩ "conf[1]").toOption.map (·.size) = some 0 := by
    decide +kernel
  obtain ⟨s, hs, hsize⟩ := Option.map_eq_some_iff.1 hload
  have hs := toOption_eq_some.1 hs
  refine ⟨.directory (List.forall_mem_singleton.2 hname) (List.nodup_singleton _)
    (List.forall_mem_singleton.2 isTree_shopFolder), ⟨s, hs, hsize⟩, fun hloads => ?_⟩
  obtain ⟨t, ht, hone, _⟩ := hloads _ _ [shopFile] [] [shopRecord] (find?_shopTree hname)
    isListing_shopFolder.1 isListing_shopFolder.2 (mapM_eq_ok.2 (.cons ofYaml_shopFile .nil))
  obtain rfl := Except.ok.inj (hs.symm.trans ht)
  rw [hsize] at hone
  cases hone

end Granary.Store
