import Granary.Json.Form
import Granary.Named
import Granary.Proofs.Json.Object
import Granary.Proofs.Outcome

/-!
# Reading records

A record that is written as a map is read by name: the values are put into slots, each under the own
name of the field that answers to it, and the record is built from the slots.  `Fields.Reads` says
that the values under the own names of the fields are sound and what they make, and
`record_of_reads` that an object with these values, in whatever order they were given, is read as
just that.
-/

namespace Granary.Data

open Outcome

variable {ν α β : Type}

/-! ## Slots -/

theorem Slots.get_eq_none {slots : Slots ν} {name : String} (h : name ∉ slots.map (·.1)) :
    slots.get name = none := by
  rw [Slots.get, Option.map_eq_none_iff, List.find?_eq_none]
  intro slot hslot hname
  exact h (List.mem_map.2 ⟨slot, hslot, by simpa using hname⟩)

theorem Slots.get_of_mem {slots : Slots ν} (hnodup : (slots.map (·.1)).Nodup) {slot : String × ν}
    (h : slot ∈ slots) : slots.get slot.1 = some slot.2 := by
  rw [Slots.get, Named.find?_of_nodup hnodup h, Option.map_some]

/-- Entries that are each under the own name of a field, and sound for it, are put into slots as
they are. -/
theorem slotsOfMap_eq_append {rules : List (Rule ν)} {entries : List (String × ν)}
    (hnodup : (entries.map (·.1)).Nodup) (hentries : ∀ e ∈ entries, ∃ rule,
      rules.find? (·.answersTo e.1) = some rule ∧ rule.name = e.1 ∧ rule.check e.2 = .ok ())
    {slots : Slots ν} (hslots : ∀ e ∈ entries, e.1 ∉ slots.map (·.1)) :
    slotsOfMap rules slots entries = .ok (slots ++ entries) := by
  induction entries generalizing slots with
  | nil => rw [slotsOfMap, List.append_nil]
  | cons e rest ih =>
    obtain ⟨⟨rule, hrule, hname, hcheck⟩, hrest⟩ := List.forall_mem_cons.1 hentries
    obtain ⟨hnew, hlater⟩ := List.forall_mem_cons.1 hslots
    rw [List.map_cons, List.nodup_cons] at hnodup
    have hnone : slots.get rule.name = none := hname ▸ Slots.get_eq_none hnew
    have hrestSlots : ∀ other ∈ rest, other.1 ∉ (slots ++ [e]).map (·.1) := by
      intro other hother hmem
      rw [List.map_append, List.mem_append, List.map_singleton, List.mem_singleton] at hmem
      obtain hmem | hmem := hmem
      · exact hlater other hother hmem
      · exact hnodup.1 (hmem ▸ List.mem_map.2 ⟨other, hother, rfl⟩)
    rw [slotsOfMap, hrule]
    simp only [hnone, Option.isSome_none, Bool.false_eq_true, if_false, hcheck]
    rw [hname, ih hnodup.2 hrest hrestSlots, List.append_assoc, List.singleton_append]

/-! ## Fields -/

namespace Fields

variable {get : String → Option ν}

theorem build_map {f : α → β} {x : Fields ν α} {b : β} :
    (f <$> x).build get = .ok b ↔ ∃ a, x.build get = .ok a ∧ f a = b :=
  map_eq_ok

theorem build_seq {f : Fields ν (α → β)} {x : Fields ν α} {b : β} : (f <*> x).build get = .ok b ↔
    ∃ g, f.build get = .ok g ∧ ∃ a, x.build get = .ok a ∧ g a = b := by
  show (do return (← f.build get) (← x.build get)) = _ ↔ _
  simp only [bind_eq_ok, pure_eq_ok]

/-- What is made of a field with a default. -/
theorem cases_of_fieldOr {name : String} {default a : α} {d : Decoder ν α} {aliases : List String}
    (h : (fieldOr name default d aliases).build get = .ok a) : a = default ∨ ∃ v, d v = .ok a := by
  unfold fieldOr at h
  dsimp only at h
  split at h
  · exact .inr ⟨_, h⟩
  · exact .inl (Except.ok.inj h).symm

/-- The values under the names of the fields are sound, and the record made of them is `a`. -/
structure Reads (fields : Fields ν α) (get : String → Option ν) (a : α) : Prop where
  build : fields.build get = .ok a
  checks : ∀ rule ∈ fields.rules, ∀ v ∈ get rule.name, rule.check v = .ok ()

theorem Reads.map {x : Fields ν α} {a : α} (f : α → β) (h : x.Reads get a) :
    (f <$> x).Reads get (f a) :=
  ⟨build_map.2 ⟨a, h.build, rfl⟩, h.checks⟩

theorem Reads.seq {f : Fields ν (α → β)} {x : Fields ν α} {g : α → β} {a : α}
    (hf : f.Reads get g) (hx : x.Reads get a) : (f <*> x).Reads get (g a) :=
  ⟨build_seq.2 ⟨g, hf.build, a, hx.build, rfl⟩,
    List.forall_mem_append.2 ⟨hf.checks, hx.checks⟩⟩

variable {name : String} {aliases : List String} {d : Decoder ν α} {v : ν} {a : α}

/-- A field whose check is to be decoded. -/
theorem checks_of_ok {need : Need} (hget : get name = some v) (hv : d v = .ok a) :
    ∀ rule ∈ [(⟨name, aliases, need, fun v => (d v).map fun _ => ()⟩ : Rule ν)],
      ∀ w ∈ get rule.name, rule.check w = .ok () := by
  refine List.forall_mem_singleton.2 fun w hw => ?_
  obtain rfl : v = w := Option.some.inj (hget.symm.trans hw)
  show (d v).map (fun _ => ()) = .ok ()
  rw [hv]
  rfl

theorem reads_field (hget : get name = some v) (hv : d v = .ok a) :
    (field name d aliases).Reads get a := by
  refine ⟨?_, checks_of_ok hget hv⟩
  simp only [field, hget, hv]

theorem reads_fieldOr {default : α} (hget : get name = some v) (hv : d v = .ok a) :
    (fieldOr name default d aliases).Reads get a := by
  refine ⟨?_, checks_of_ok hget hv⟩
  simp only [fieldOr, hget, hv]

/-- A field that is left out where there is nothing to write. -/
theorem reads_fieldOr_none {d : Decoder ν (Option α)} {write : α → ν} {a? : Option α}
    (hget : get name = a?.map write) (hwrite : ∀ a ∈ a?, d (write a) = .ok (some a)) :
    (fieldOr name none d aliases).Reads get a? := by
  cases a? with
  | some a => exact reads_fieldOr hget (hwrite a rfl)
  | none =>
    refine ⟨?_, List.forall_mem_singleton.2 fun w hw => ?_⟩
    · simp only [fieldOr, hget, Option.map_none]
    · exact absurd (hget.symm.trans hw) (Option.some_ne_none w).symm

theorem reads_fieldOption [Form ν] {a? : Option α} (hget : get name = some v)
    (hv : optional d v = .ok a?) : (fieldOption name d aliases).Reads get a? := by
  refine ⟨?_, checks_of_ok hget hv⟩
  simp only [fieldOption, hget, hv]

end Fields

/-! ## Records -/

/-- However a record is written, it is built of values that are found under names. -/
theorem build_of_record [Form ν] {name : String} {fields : Fields ν α} {v : ν} {a : α}
    (h : record name fields v = .ok a) : ∃ get, fields.build get = .ok a := by
  unfold record at h
  split at h
  · obtain ⟨slots, _, hbuild⟩ := bind_eq_ok.1 h
    exact ⟨slots.get, hbuild⟩
  · obtain ⟨slots, _, hlist⟩ := bind_eq_ok.1 h
    split at hlist
    · cases hlist
    · exact ⟨slots.get, hlist⟩
  · cases h

/-- What a record says of a field: in a map under a name that the field is the first to answer to,
and in a list at the place that the field has among the others. -/
inductive Gives [Form ν] (rules : List (Rule ν)) (v : ν) : Rule ν → ν → Prop where
  | map {entries : List (String × ν)} {e : String × ν} {rule : Rule ν}
      (hshape : shape v = .map entries) (he : e ∈ entries)
      (hrule : rules.find? (·.answersTo e.1) = some rule) : Gives rules v rule e.2
  | list {items : List ν} {i : Nat} {rule : Rule ν} {w : ν} (hshape : shape v = .list items)
      (hrule : rules[i]? = some rule) (hw : items[i]? = some w) : Gives rules v rule w

theorem Slots.get_append (slots more : Slots ν) (name : String) :
    Slots.get (slots ++ more) name = (slots.get name).or (more.get name) := by
  rw [Slots.get, List.find?_append, Option.map_or]
  rfl

theorem Slots.get_cons (slot : String × ν) (slots : Slots ν) (name : String) :
    Slots.get (slot :: slots) name = if slot.1 = name then some slot.2 else slots.get name := by
  by_cases hsame : slot.1 = name
  · simp [Slots.get, hsame]
  · simp [Slots.get, hsame]

/-- A slot that is filled stays as it is. -/
theorem get_slotsOfMap_of_some {rules : List (Rule ν)} {entries : List (String × ν)}
    {slots slots' : Slots ν} (h : slotsOfMap rules slots entries = .ok slots') {name : String}
    {v : ν} (hget : slots.get name = some v) : slots'.get name = some v := by
  induction entries generalizing slots with
  | nil =>
    rw [← Except.ok.inj h]
    exact hget
  | cons e rest ih =>
    unfold slotsOfMap at h
    split at h
    · exact ih h hget
    · split at h
      · cases h
      · split at h
        · cases h
        · exact ih h (by rw [Slots.get_append, hget, Option.some_or])

theorem get_slotsOfMap_of_mem {rules : List (Rule ν)} {entries : List (String × ν)}
    {slots slots' : Slots ν} (h : slotsOfMap rules slots entries = .ok slots') {e : String × ν}
    (he : e ∈ entries) {rule : Rule ν} (hrule : rules.find? (·.answersTo e.1) = some rule) :
    slots'.get rule.name = some e.2 := by
  induction entries generalizing slots with
  | nil => cases he
  | cons first rest ih =>
    unfold slotsOfMap at h
    obtain rfl | he := List.mem_cons.1 he
    · rw [hrule] at h
      dsimp only at h
      split at h
      · cases h
      · rename_i hnone
        split at h
        · cases h
        · refine get_slotsOfMap_of_some h ?_
          rw [Bool.not_eq_true, Option.isSome_eq_false_iff, Option.isNone_iff_eq_none] at hnone
          rw [Slots.get_append, hnone, Option.none_or, Slots.get_cons, if_pos rfl]
    · split at h
      · exact ih h he
      · split at h
        · cases h
        · split at h
          · cases h
          · exact ih h he

theorem get_slotsOfList {record : String} {fields index : Nat} {rules : List (Rule ν)}
    {items : List ν} {slots : Slots ν} (h : slotsOfList record fields index rules items = .ok slots)
    (hnodup : (rules.map (·.name)).Nodup) {i : Nat} {rule : Rule ν} {w : ν}
    (hrule : rules[i]? = some rule) (hw : items[i]? = some w) :
    slots.get rule.name = some w := by
  induction rules generalizing index items slots i with
  | nil => simp at hrule
  | cons first rest ih =>
    obtain ⟨hfirst, hrest⟩ := List.nodup_cons.1 hnodup
    cases items with
    | nil => simp at hw
    | cons v items =>
      rw [slotsOfList] at h
      obtain ⟨_, _, h⟩ := bind_eq_ok.1 h
      obtain ⟨more, hmore, h⟩ := bind_eq_ok.1 h
      rw [← pure_eq_ok.1 h]
      cases i with
      | zero =>
        obtain rfl : first = rule := by simpa using hrule
        obtain rfl : v = w := by simpa using hw
        rw [Slots.get_cons, if_pos rfl]
      | succ i =>
        rw [List.getElem?_cons_succ] at hrule hw
        have hne : first.name ≠ rule.name := fun hsame =>
          hfirst (List.mem_map.2 ⟨rule, List.mem_of_getElem? hrule, hsame.symm⟩)
        rw [Slots.get_cons, if_neg hne]
        exact ih hmore hrest hrule hw

/-- What a record says of its fields is what it is built of. -/
theorem build_of_gives [Form ν] {name : String} {fields : Fields ν α} {v : ν} {a : α}
    (hnodup : (fields.rules.map (·.name)).Nodup) (h : record name fields v = .ok a) :
    ∃ get, fields.build get = .ok a ∧
      ∀ rule w, Gives fields.rules v rule w → get rule.name = some w := by
  unfold record at h
  split at h
  · rename_i entries hshape
    obtain ⟨slots, hslots, hbuild⟩ := bind_eq_ok.1 h
    refine ⟨slots.get, hbuild, fun rule w hgives => ?_⟩
    cases hgives with
    | map hmap he hrule =>
      obtain rfl := Shape.map.inj (hshape.symm.trans hmap)
      exact get_slotsOfMap_of_mem hslots he hrule
    | list hlist => cases hshape.symm.trans hlist
  · rename_i items hshape
    obtain ⟨slots, hslots, hlist⟩ := bind_eq_ok.1 h
    split at hlist
    · cases hlist
    · refine ⟨slots.get, hlist, fun rule w hgives => ?_⟩
      cases hgives with
      | map hmap => cases hshape.symm.trans hmap
      | list hitems hrule hw =>
        obtain rfl := Shape.list.inj (hshape.symm.trans hitems)
        exact get_slotsOfList hslots hnodup hrule hw
  · cases h

/-- Every field is the first to answer to its own name. -/
def Rule.Distinct (rules : List (Rule ν)) : Prop :=
  ∀ rule ∈ rules, (rules.find? (·.answersTo rule.name)).map (·.name) = some rule.name

/-- An object is read as what its values make, if each is under the own name of a field. -/
theorem record_of_reads {name : String} {fields : Fields Json α} {given : List (String × Json)}
    {a : α} (hdistinct : Rule.Distinct fields.rules) (names : List String)
    (hfields : fields.rules.map (·.name) = names) (hnames : given.map (·.1) ⊆ names)
    (h : fields.Reads (Json.ofFields given).field? a) :
    record name fields (Json.ofFields given) = .ok a := by
  have hnodup : ((Json.give [] given).map (·.1)).Nodup :=
    (Json.sorted_give given List.Pairwise.nil).imp fun hlt => hlt.ne
  have hentries : ∀ e ∈ Json.give [] given, ∃ rule,
      fields.rules.find? (·.answersTo e.1) = some rule ∧ rule.name = e.1 ∧
        rule.check e.2 = .ok () := by
    intro e he
    have hgiven : e.1 ∈ given.map (·.1) := by
      have hmem := (Json.mem_names_give given [] e.1).1 (List.mem_map.2 ⟨e, he, rfl⟩)
      exact hmem.resolve_left List.not_mem_nil
    obtain ⟨own, hown, hsame⟩ := List.mem_map.1 (hfields ▸ hnames hgiven)
    obtain ⟨rule, hrule, hname⟩ := Option.map_eq_some_iff.1 (hdistinct own hown)
    rw [hsame] at hrule hname
    refine ⟨rule, hrule, hname, h.checks rule (List.mem_of_find?_eq_some hrule) e.2 ?_⟩
    rw [hname]
    exact Slots.get_of_mem hnodup he
  have hslots : slotsOfMap fields.rules [] (Json.give [] given) = .ok (Json.give [] given) :=
    slotsOfMap_eq_append hnodup hentries fun _ _ => List.not_mem_nil
  show (slotsOfMap fields.rules [] (Json.give [] given) >>= fun slots => fields.build slots.get) = _
  rw [hslots]
  exact h.build

end Granary.Data
