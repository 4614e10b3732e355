import Granary.Proofs.Files.Acceptance

/-!
# Paths that a pattern takes for others

The pieces of a name may accept no name at all, and then a pattern leads nowhere
(`matching_eq_nil`).  If those of all names of a path accept names, the pattern also leads to where
these names lead (`mem_matching`), and there is a tree that has both paths (`exists_fork`).
-/

namespace Granary.Files

open Outcome

/-! ## Trees -/

/-- All entries of a directory have names, which differ from each other, at any depth. -/
inductive Entry.IsTree : Entry → Prop where
  | file (content : Except FileFault String) : IsTree (.file content)
  | directory {entries : List (String × Entry)} (names : ∀ e ∈ entries, IsName e.1)
    (nodup : (entries.map (·.1)).Nodup) (inner : ∀ e ∈ entries, IsTree e.2) :
    IsTree (.directory entries)

/-- The entry of a spot and the directories around it are trees. -/
structure Spot.IsProper (s : Spot) : Prop where
  entry : s.entry.IsTree
  around : ∀ e ∈ s.around, e.IsTree

/-! ## Spots in trees -/

namespace Spot

variable {s t : Spot} {name : String}

theorem mem_children {c : String × Spot} : c ∈ s.children ↔
    ∃ entries, s.entry = .directory entries ∧
      ∃ e ∈ entries, (e.1, ⟨e.2, s.entry :: s.around⟩) = c := by
  unfold children
  split
  · rename_i hfile
    simp [hfile]
  · rename_i entries hentries
    rw [Named.sorted, (sortBy_perm _ _).mem_iff, List.mem_map]
    constructor
    · exact fun h => ⟨entries, hentries, h⟩
    · rintro ⟨_, hsame, h⟩
      rw [hentries] at hsame
      exact Entry.directory.inj hsame ▸ h

theorem branches_eq_map (around : List Entry) (entries : List (String × Entry)) :
    branches around entries =
      entries.map fun e => (e.1, (e.1, ⟨e.2, around⟩) :: below around e.2) := by
  induction entries with
  | nil => rw [branches, List.map_nil]
  | cons e rest ih => rw [branches, List.map_cons, ih]

/-- What is in a directory at some depth is in it or in a directory in it. -/
theorem mem_descendants {d : String × Spot} : d ∈ s.descendants ↔
    ∃ c ∈ s.children, d = c ∨ d ∈ c.2.descendants := by
  obtain ⟨entry, around⟩ := s
  cases entry with
  | file => simp [descendants, below, children]
  | directory entries =>
    simp only [descendants, below, Named.sorted, List.mem_flatMap, (sortBy_perm _ _).mem_iff,
      branches_eq_map, List.mem_map]
    constructor
    · rintro ⟨_, ⟨e, he, rfl⟩, hd⟩
      exact ⟨_, mem_children.2 ⟨entries, rfl, e, he, rfl⟩, List.mem_cons.1 hd⟩
    · rintro ⟨c, hc, hd⟩
      obtain ⟨_, hsame, e, he, rfl⟩ := mem_children.1 hc
      obtain rfl := Entry.directory.inj hsame
      exact ⟨_, ⟨e, he, rfl⟩, List.mem_cons.2 hd⟩

/-- A name leads to the entry that has it. -/
theorem step?_of_isName (h : IsName name) (entries : List (String × Entry)) (around : List Entry) :
    step? ⟨.directory entries, around⟩ name =
      (Named.get? entries name).map (⟨·, .directory entries :: around⟩) := by
  rw [step?]
  simp only [h.ne_empty, h.ne_point, h.ne_points, or_self, if_false]

theorem mem_children_of_step? (hname : IsName name) (h : s.step? name = some t) :
    (name, t) ∈ s.children := by
  obtain ⟨entry, around⟩ := s
  cases entry with
  | file => cases h
  | directory entries =>
    rw [step?_of_isName hname] at h
    obtain ⟨e, he, rfl⟩ := Option.map_eq_some_iff.1 h
    exact mem_children.2 ⟨entries, rfl, _, Named.mem_of_get?_eq_some he, rfl⟩

namespace IsProper

theorem children (h : s.IsProper) {c : String × Spot} (hc : c ∈ s.children) :
    IsName c.1 ∧ c.2.IsProper := by
  obtain ⟨entries, hentries, e, he, rfl⟩ := mem_children.1 hc
  have htree := h.entry
  rw [hentries] at htree
  cases htree with
  | directory names _ inner =>
    exact ⟨names e he, inner e he, List.forall_mem_cons.2 ⟨h.entry, h.around⟩⟩

theorem step? (h : s.IsProper) (hstep : s.step? name = some t) : t.IsProper := by
  unfold Spot.step? at hstep
  split at hstep
  · cases hstep
  · rename_i entries hentries
    split at hstep
    · exact Option.some.inj hstep ▸ h
    · split at hstep
      · split at hstep
        · rename_i outer around haround
          obtain rfl := Option.some.inj hstep
          obtain ⟨houter, hrest⟩ := List.forall_mem_cons.1 (haround ▸ h.around)
          exact ⟨houter, hrest⟩
        · cases hstep
      · obtain ⟨e, he, rfl⟩ := Option.map_eq_some_iff.1 hstep
        have hmem := Named.mem_of_get?_eq_some he
        exact (h.children (mem_children.2 ⟨entries, hentries, _, hmem, rfl⟩)).2

theorem descendants (h : s.IsProper) {d : String × Spot} (hd : d ∈ s.descendants) :
    IsName d.1 ∧ d.2.IsProper := by
  obtain ⟨entry, around⟩ := s
  obtain ⟨htree, haround⟩ := h
  dsimp only at htree haround
  induction htree generalizing around with
  | file =>
    obtain ⟨c, hc, _⟩ := mem_descendants.1 hd
    obtain ⟨_, hfile, _⟩ := mem_children.1 hc
    cases hfile
  | @directory entries names nodup inner ih =>
    obtain ⟨c, hc, hdeep⟩ := mem_descendants.1 hd
    have hproper := (IsProper.mk (.directory names nodup inner) haround).children hc
    obtain rfl | hdeep := hdeep
    · exact hproper
    · obtain ⟨_, hsame, e, he, rfl⟩ := mem_children.1 hc
      obtain rfl := Entry.directory.inj hsame
      exact ih e he _ hdeep hproper.2.around

/-- What is in a directory is in all directories around it. -/
theorem mem_descendants_of_children (h : s.IsProper) {d c : String × Spot}
    (hd : d ∈ s.descendants) (hc : c ∈ d.2.children) : c ∈ s.descendants := by
  obtain ⟨entry, around⟩ := s
  obtain ⟨htree, haround⟩ := h
  dsimp only at htree
  clear haround
  induction htree generalizing around with
  | file =>
    obtain ⟨first, hfirst, _⟩ := mem_descendants.1 hd
    obtain ⟨_, hfile, _⟩ := mem_children.1 hfirst
    cases hfile
  | directory _ _ _ ih =>
    obtain ⟨first, hfirst, hdeep⟩ := mem_descendants.1 hd
    refine mem_descendants.2 ⟨first, hfirst, .inr ?_⟩
    obtain rfl | hdeep := hdeep
    · exact mem_descendants.2 ⟨c, hc, .inl rfl⟩
    · obtain ⟨_, hsame, e, he, rfl⟩ := mem_children.1 hfirst
      obtain rfl := Entry.directory.inj hsame
      exact ih e he _ hdeep

end IsProper

/-! ## Where a pattern leads nowhere -/

/-- A pattern leads nowhere if one of its parts accepts no name. -/
theorem matching_eq_nil (h : s.IsProper) {pattern : Pattern} {ps : List Piece}
    (hmem : .wild ps ∈ pattern) (hpoint : ps.head? ≠ some (.char '.'))
    (hnone : ∀ name, IsName name → matchesText ps name.toList = false) :
    matching pattern s = [] := by
  induction pattern, s using matching.induct with
  | case1 => exact absurd hmem List.not_mem_nil
  | case2 name rest s t hstep ih =>
    rw [matching, hstep]
    exact ih (h.step? hstep) ((List.mem_cons.1 hmem).resolve_left Part.noConfusion)
  | case3 name rest s hstep => rw [matching, hstep]
  | case4 pieces rest s ih =>
    rw [matching]
    obtain heq | hrest := List.mem_cons.1 hmem
    · obtain rfl := Part.wild.inj heq
      have hchildren : (s.children.filter fun c => matchesText ps c.1.toList) = [] :=
        List.filter_eq_nil_iff.2 fun c hc => by simp [hnone c.1 (h.children hc).1]
      rw [hchildren, dotted, if_neg hpoint]
      rfl
    · have hdotted : (s.dotted pieces).flatMap (matching rest) = [] := by
        refine List.flatMap_eq_nil_iff.2 fun t ht => ih ("", t) ?_ hrest
        unfold dotted at ht
        split at ht
        · obtain ⟨name, _, hstep⟩ := List.mem_filterMap.1 ht
          exact h.step? hstep
        · cases ht
      rw [hdotted, List.nil_append]
      exact List.flatMap_eq_nil_iff.2 fun c hc =>
        ih c (h.children (List.mem_of_mem_filter hc)).2 hrest
  | case5 s => cases List.mem_singleton.1 hmem
  | case6 next rest s ih =>
    rw [matching]
    obtain rfl | hrest := List.mem_cons.1 ((List.mem_cons.1 hmem).resolve_left Part.noConfusion)
    · have hdescendants : (s.descendants.filter fun c => (Part.wild ps).accepts c.1) = [] :=
        List.filter_eq_nil_iff.2 fun c hc => by simp [Part.accepts, hnone c.1 (h.descendants hc).1]
      rw [hdescendants]
      rfl
    · exact List.flatMap_eq_nil_iff.2 fun c hc =>
        ih c (h.descendants (List.mem_of_mem_filter hc)).2 hrest

theorem mem_merged {p : Part} (hp : p ≠ .deep) {ps : List Part} (h : p ∈ ps) : p ∈ merged ps := by
  induction ps using merged.induct with
  | case1 rest ih =>
    rw [merged]
    exact ih ((List.mem_cons.1 h).resolve_left hp)
  | case2 part rest hne ih =>
    rw [merged.eq_2 _ _ hne]
    exact List.mem_cons.2 ((List.mem_cons.1 h).imp_right ih)
  | case3 => exact h

/-! ## Where else a pattern leads -/

/-- A pattern leads to where names lead of which its parts accept one after the other.  Behind a
deep part the names may start at any depth. -/
theorem mem_matching_and_deep {parts : List Part} {names : List String}
    (haccepts : List.Forall₂ (fun p name => p.accepts name = true) parts names)
    (hnames : ∀ name ∈ names, IsName name) (hlast : parts.getLast? ≠ some .deep) :
    (∀ {s t : Spot}, s.IsProper → names.foldlM Spot.step? s = some t →
      t ∈ matching (merged parts) s) ∧
    (∀ {s t : Spot} {d : String × Spot}, s.IsProper → parts ≠ [] → d ∈ s.descendants →
      names.foldlM Spot.step? d.2 = some t → t ∈ matching (merged (.deep :: parts)) s) := by
  induction haccepts with
  | nil =>
    refine ⟨fun _ h => ?_, fun _ hne => absurd rfl hne⟩
    obtain rfl := Option.some.inj h
    exact List.mem_singleton.2 rfl
  | @cons p name parts names haccept hrest ih =>
    obtain ⟨hname, hnames⟩ := List.forall_mem_cons.1 hnames
    have hlast' : parts.getLast? ≠ some .deep := fun hdeep =>
      hlast (by rw [List.getLast?_cons, hdeep, Option.getD_some])
    have hne : p = .deep → parts ≠ [] := by
      rintro rfl rfl
      exact hlast rfl
    obtain ⟨hmain, hdeep⟩ := ih hnames hlast'
    constructor
    · intro s t hs h
      obtain ⟨u, hstep, hwalk⟩ := Option.bind_eq_some_iff.1 (List.foldlM_cons.symm.trans h)
      have hchild := mem_children_of_step? hname hstep
      have hwalked := hmain (hs.step? hstep) hwalk
      cases p with
      | literal own =>
        rw [merged_cons Part.noConfusion, matching, beq_iff_eq.1 haccept, hstep]
        exact hwalked
      | wild ps =>
        rw [merged_cons Part.noConfusion, matching]
        refine List.mem_append_right _ (List.mem_flatMap.2 ⟨(name, u), ?_, hwalked⟩)
        exact List.mem_filter.2 ⟨hchild, haccept⟩
      | deep => exact hdeep hs (hne rfl) (mem_descendants.2 ⟨_, hchild, .inl rfl⟩) hwalk
    · intro s t d hs _ hd h
      obtain ⟨u, hstep, hwalk⟩ := Option.bind_eq_some_iff.1 (List.foldlM_cons.symm.trans h)
      have hchild := hs.mem_descendants_of_children hd (mem_children_of_step? hname hstep)
      by_cases hp : p = .deep
      · rw [hp, merged]
        exact hdeep hs (hne hp) hchild hwalk
      · have hmerged : merged (.deep :: p :: parts) = .deep :: p :: merged parts := by
          rw [merged.eq_2, merged_cons hp]
          rintro _ _ heq
          exact hp (List.cons.inj heq).1
        rw [hmerged, matching]
        refine List.mem_flatMap.2 ⟨(name, u), List.mem_filter.2 ⟨hchild, haccept⟩, ?_⟩
        exact hmain (hs.descendants hchild).2 hwalk

/-- A pattern leads to where names lead of which its parts accept one after the other. -/
theorem mem_matching {parts : List Part} {names : List String}
    (haccepts : List.Forall₂ (fun p name => p.accepts name = true) parts names)
    (hnames : ∀ name ∈ names, IsName name) (hlast : parts.getLast? ≠ some .deep)
    (hs : s.IsProper) (h : names.foldlM step? s = some t) : t ∈ matching (merged parts) s :=
  (mem_matching_and_deep haccepts hnames hlast).1 hs h

end Spot

/-! ## Trees with given paths -/

/-- A path that begins with the name of an entry goes on from there. -/
theorem foldlM_step?_cons {name : String} (hname : IsName name) {entries : List (String × Entry)}
    {e : Entry} (h : Named.get? entries name = some e) (names : List String)
    (around : List Entry) : (name :: names).foldlM Spot.step? ⟨.directory entries, around⟩ =
      names.foldlM Spot.step? ⟨e, .directory entries :: around⟩ := by
  rw [List.foldlM_cons, Spot.step?_of_isName hname, h]
  rfl

theorem get?_cons_self (name : String) (e : Entry) (rest : List (String × Entry)) :
    Named.get? ((name, e) :: rest) name = some e := by
  rw [Named.get?, if_pos rfl]

/-- A tree in which names lead to an entry. -/
theorem exists_path {names : List String} (hnames : ∀ name ∈ names, IsName name) {e : Entry}
    (he : e.IsTree) (hdirectory : e.isDirectory = true) : ∃ root : Entry, root.IsTree ∧
      root.isDirectory = true ∧ ∀ around, ∃ outer,
        names.foldlM Spot.step? ⟨root, around⟩ = some ⟨e, outer⟩ := by
  induction names with
  | nil => exact ⟨e, he, hdirectory, fun around => ⟨around, rfl⟩⟩
  | cons name names ih =>
    obtain ⟨hname, hnames⟩ := List.forall_mem_cons.1 hnames
    obtain ⟨root, hroot, _, hpath⟩ := ih hnames
    refine ⟨.directory [(name, root)], .directory (List.forall_mem_singleton.2 hname)
      (List.nodup_singleton _) (List.forall_mem_singleton.2 hroot), rfl, fun around => ?_⟩
    rw [foldlM_step?_cons hname (get?_cons_self ..)]
    exact hpath _

/-- A tree in which two lists of names lead to two entries. -/
theorem exists_fork {names others : List String} (hnames : ∀ name ∈ names, IsName name)
    (hothers : ∀ name ∈ others, IsName name) (hlength : names.length = others.length)
    (hne : names ≠ others) {e other : Entry} (he : e.IsTree) (hother : other.IsTree)
    (hdirectory : e.isDirectory = true) (hdirectory' : other.isDirectory = true) :
    ∃ root : Entry, root.IsTree ∧ root.isDirectory = true ∧ ∀ around,
      (∃ outer, names.foldlM Spot.step? ⟨root, around⟩ = some ⟨e, outer⟩) ∧
      ∃ outer, others.foldlM Spot.step? ⟨root, around⟩ = some ⟨other, outer⟩ := by
  induction names generalizing others with
  | nil => exact absurd (List.eq_nil_of_length_eq_zero hlength.symm).symm hne
  | cons name names ih =>
    cases others with
    | nil => cases hlength
    | cons name' others =>
      obtain ⟨hname, hnames⟩ := List.forall_mem_cons.1 hnames
      obtain ⟨hname', hothers'⟩ := List.forall_mem_cons.1 hothers
      by_cases hsame : name = name'
      · subst hsame
        obtain ⟨root, hroot, _, hpaths⟩ := ih hnames hothers' (by simpa using hlength)
          fun heq => hne (congrArg (name :: ·) heq)
        refine ⟨.directory [(name, root)], .directory (List.forall_mem_singleton.2 hname)
          (List.nodup_singleton _) (List.forall_mem_singleton.2 hroot), rfl, fun around => ?_⟩
        simp only [foldlM_step?_cons hname (get?_cons_self ..)]
        exact hpaths _
      · obtain ⟨first, hfirst, _, hpath⟩ := exists_path hnames he hdirectory
        obtain ⟨second, hsecond, _, hpath'⟩ := exists_path hothers' hother hdirectory'
        refine ⟨.directory [(name, first), (name', second)], .directory ?_ ?_ ?_, rfl,
          fun around => ⟨?_, ?_⟩⟩
        · exact List.forall_mem_cons.2 ⟨hname, List.forall_mem_singleton.2 hname'⟩
        · simpa using hsame
        · exact List.forall_mem_cons.2 ⟨hfirst, List.forall_mem_singleton.2 hsecond⟩
        · rw [foldlM_step?_cons hname (get?_cons_self ..)]
          exact hpath _
        · have hget : Named.get? [(name, first), (name', second)] name' = some second := by
            rw [Named.get?, if_neg hsame, get?_cons_self]
          rw [foldlM_step?_cons hname' hget]
          exact hpath' _

/-! ## Paths -/

/-- A path that consists of names, one below the other; in front of them may stand a separator, or a
point and a separator.  A name with a special character does not begin with a point. -/
structure IsPath (path : String) (names : List String) : Prop where
  parts : (Text.parts separator path.toList).map String.ofList = names ∨
    ∃ start, (start = "" ∨ start = ".") ∧
      (Text.parts separator path.toList).map String.ofList = start :: names
  each : ∀ name ∈ names, IsName name
  visible : ∀ name ∈ names, ¬ IsPlain name.toList → name.toList.head? ≠ some '.'

/-- What may stand in front of the names of a path leads from a directory to itself. -/
theorem step?_start {name : String} (h : name = "" ∨ name = ".") {root : Entry}
    (hroot : root.isDirectory = true) (around : List Entry) :
    Spot.step? ⟨root, around⟩ name = some ⟨root, around⟩ := by
  cases root with
  | file => cases hroot
  | directory => exact if_pos h

namespace IsPath

variable {path : String} {names : List String}

theorem exists_special (h : IsPath path names) (hspecial : ¬ IsPlain path.toList) :
    ∃ name ∈ names, ¬ IsPlain name.toList := by
  by_contra hnone
  push Not at hnone
  refine hspecial fun c hc => ?_
  by_cases hsep : c = separator
  · exact hsep ▸ rfl
  obtain ⟨part, hpart, hmem⟩ := Text.exists_mem_parts.2 ⟨hc, hsep⟩
  have hname := List.mem_map_of_mem (f := String.ofList) hpart
  rw [← String.toList_ofList (l := part)] at hmem
  obtain hparts | ⟨start, hstart, hparts⟩ := h.parts
  · rw [hparts] at hname
    exact hnone _ hname c hmem
  · rw [hparts] at hname
    obtain heq | hname := List.mem_cons.1 hname
    · rw [heq] at hmem
      obtain rfl | rfl := hstart
      · exact absurd hmem List.not_mem_nil
      · exact List.mem_singleton.1 hmem ▸ rfl
    · exact hnone _ hname c hmem

theorem find?_eq (h : IsPath path names) (hne : path ≠ "") {root : Entry}
    (hroot : root.isDirectory = true) (around : List Entry) :
    Spot.find? ⟨root, around⟩ path = names.foldlM Spot.step? ⟨root, around⟩ := by
  rw [Spot.find?_of_ne_empty hne]
  obtain hparts | ⟨start, hstart, hparts⟩ := h.parts
  · rw [hparts]
  · rw [hparts, List.foldlM_cons, step?_start hstart hroot]
    rfl

/-- A pattern for the entries of a path leads from a directory to where the pieces of the names
lead. -/
theorem matching_eq (h : IsPath path names) {ending : String} (hending : IsPlain ending.toList)
    (hsep : separator ∉ ending.toList) {pattern : Pattern}
    (hparse : Pattern.parse (path ++ ("/*" ++ ending)) = .ok pattern) :
    ∃ ps, List.Forall₂ (fun name ps => pieces name.toList = .ok ps) names ps ∧
      ∀ {root : Entry}, root.isDirectory = true → ∀ around,
        Spot.matching pattern ⟨root, around⟩ =
          Spot.matching (merged (ps.map Part.ofPieces ++ [endingPart ending])) ⟨root, around⟩ := by
  obtain ⟨_, ps, hps, rfl⟩ := (parse_folder hending hsep).1 hparse
  have htexts : Text.parts separator path.toList =
      ((Text.parts separator path.toList).map String.ofList).map String.toList := by
    simp
  rw [mapM_eq_ok, htexts, List.forall₂_map_left_iff] at hps
  obtain hparts | ⟨start, hstart, hparts⟩ := h.parts
  · rw [hparts] at hps
    exact ⟨ps, hps, fun _ _ => rfl⟩
  · rw [hparts, List.forall₂_cons_left_iff] at hps
    obtain ⟨first, ps, hfirst, hps, rfl⟩ := hps
    refine ⟨ps, hps, fun hroot around => ?_⟩
    have hliteral : Part.ofPieces first = .literal start := by
      obtain rfl | rfl := hstart
      · exact Except.ok.inj hfirst ▸ rfl
      · exact Except.ok.inj hfirst ▸ rfl
    rw [List.map_cons, List.cons_append, hliteral, merged_cons Part.noConfusion, Spot.matching,
      step?_start hstart hroot]

end IsPath

end Granary.Files
