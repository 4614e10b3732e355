import Granary.Proofs.Replica.Journal
import Mathlib.Data.List.GetD

/-!
# Chunks cut into batches

What a cursor delivers comes in chunks of any sizes, and what a loader is passed are batches of one
size.  While nothing fails the batches together are the chunks together, whichever way the borders
of the ones fall between those of the others.
-/

namespace Granary.Replica

open Program (Leads Noting)

variable {κ ω : Type}

/-- Nothing fails, and the cursor delivers these chunks and then empty ones. -/
def Feeding (feed : List (List Row)) (h : Journal κ ω) (c : Call κ ω) (answer : Answer c) : Prop :=
  Within feed.length h c answer ∧ Note.error? ⟨c, answer⟩ = none ∧
    ∀ rows, Note.chunk? ⟨c, answer⟩ = some rows → rows = feed.getD h.chunks.length []

/-- What has been delivered so far is what there was to be delivered. -/
structure Fed (feed : List (List Row)) (h : Journal κ ω) : Prop where
  unfailing : h.Unfailing
  chunks : h.chunks = (List.range h.chunks.length).map fun k => feed.getD k []

variable {feed : List (List Row)} {h : Journal κ ω} {c : Call κ ω} {answer : Answer c}

theorem Fed.note (hh : Fed feed h) (hanswer : Feeding feed h c answer) :
    Fed feed (h ++ [⟨c, answer⟩]) where
  unfailing := hh.unfailing.append hanswer.2.1
  chunks := by
    have hchunks : Journal.chunks (h ++ [⟨c, answer⟩]) =
        h.chunks ++ (Note.chunk? ⟨c, answer⟩).toList := filterMap_concat ..
    cases hnext : Note.chunk? ⟨c, answer⟩ with
    | none =>
      rw [hnext, Option.toList_none, List.append_nil] at hchunks
      rw [hchunks]
      exact hh.chunks
    | some rows =>
      rw [hnext, Option.toList_some] at hchunks
      rw [hchunks, List.length_append, List.length_singleton, List.range_succ, List.map_append,
        ← hh.chunks, hanswer.2.2 rows hnext]
      rfl

/-- Every call of a copy can be answered without a failure. -/
theorem exists_feeding [Nonempty κ] (loader : ω) (h : Journal κ ω)
    (hmay : Within feed.length h c answer) : ∃ answer', Feeding feed h c answer' := by
  obtain ⟨opened⟩ := ‹Nonempty κ›
  cases c with
  | beginLoad table columns mode => exact ⟨.ok loader, trivial, rfl, nofun⟩
  | openCursor source columns chunk => exact ⟨.ok opened, trivial, rfl, nofun⟩
  | nextChunk cursor =>
    refine ⟨(cursor, .ok (feed.getD h.chunks.length [])), ?_, rfl, ?_⟩
    · by_cases hmore : h.chunks.length < feed.length
      · rw [List.getD_eq_getElem _ _ hmore]
        cases feed[h.chunks.length] with
        | nil => trivial
        | cons row rows => exact hmore
      · rw [List.getD_eq_default _ _ (Nat.le_of_not_lt hmore)]
        trivial
    · intro rows hrows
      exact (Option.some.inj hrows).symm
  | insertBatch loader rows => exact ⟨(loader, .ok 0), trivial, rfl, nofun⟩
  | closeCursor cursor => exact ⟨.ok (), trivial, rfl, nofun⟩
  | dropCursor cursor => exact ⟨(), trivial, rfl, nofun⟩
  | commit loader => exact ⟨.ok (), trivial, rfl, nofun⟩
  | rollback loader => exact ⟨.ok (), trivial, rfl, nofun⟩
  | _ => exact hmay.elim

theorem Fed.eq_feed (hh : Fed feed h) (hfeed : ∀ rows ∈ feed, rows ≠ [])
    {full : List (List Row)} (hchunks : h.chunks = full ++ [[]])
    (hfull : ∀ rows ∈ full, rows ≠ []) : full = feed := by
  have hall := hh.chunks
  rw [hchunks, List.length_append, List.length_singleton, List.range_succ, List.map_append] at hall
  obtain ⟨hfirst, hlast⟩ := List.append_inj' hall rfl
  have hend : feed.getD full.length [] = [] := (List.singleton_inj.1 hlast).symm
  have hle : feed.length ≤ full.length := by
    by_contra hlt
    rw [List.getD_eq_getElem _ _ (Nat.lt_of_not_le hlt)] at hend
    exact hfeed _ (List.getElem_mem _) hend
  refine List.ext_getElem ?_ ?_
  · refine Nat.le_antisymm ?_ hle
    by_contra hlt
    have hmem : feed.getD feed.length [] ∈ full := by
      rw [hfirst]
      exact List.mem_map.2 ⟨feed.length, List.mem_range.2 (Nat.lt_of_not_le hlt), rfl⟩
    exact hfull _ hmem (List.getD_eq_default _ _ (Nat.le_refl _))
  · intro k hk hk'
    have hget : full[k] = feed.getD k [] := by
      conv_lhs => rw [List.getElem_of_eq hfirst]
      rw [List.getElem_map, List.getElem_range]
    rw [hget, List.getD_eq_getElem _ _ hk']

/-- A batch never has more cells than a statement may have parameters. -/
theorem batchSize_mul_le (wanted : Nat) {columns : Nat} (hcolumns : columns ≤ 65535) :
    batchSize wanted columns * columns ≤ 65535 := by
  rcases Nat.eq_zero_or_pos columns with rfl | hpos
  · exact Nat.zero_le _
  · have hquotient : 1 ≤ 65535 / columns := (Nat.one_le_div_iff hpos).2 hcolumns
    have hsize : batchSize wanted columns ≤ 65535 / columns := by
      rw [batchSize, mostParameters, Nat.max_eq_left hpos, Nat.max_eq_left hquotient]
      exact Nat.min_le_right _ _
    exact (Nat.mul_le_mul_right columns hsize).trans (Nat.div_mul_le_self _ _)

/-- Pumping ends behind the first empty chunk.  The batches it passes on are, one after another, the
chunks one after another; none is empty, all but the last have the size of a batch, and none has
more cells than one statement may have parameters.  What is counted is what the loader said. -/
theorem batched_of_pump [Nonempty κ] (pace : Pace) (source : String) {columns : List Column}
    (loader : ω) (feed : List (List Row)) (hfeed : ∀ rows ∈ feed, rows ≠ [])
    (hfetches : feed.length < pace.fetches) (hcolumns : columns.length ≤ 65535) :
    (pump pace source columns loader : Work κ ω (ω × Except Error Nat)).Leads
      (Noting (Feeding feed)) (fun (_, outcome) h =>
        Journal.chunks h = feed ++ [[]] ∧ (Journal.batches h).flatten = feed.flatten ∧
        Batched (batchSize pace.batch columns.length) (Journal.batches h) ∧
        (∀ batch ∈ Journal.batches h, batch.length * columns.length ≤ 65535) ∧
        outcome = .ok (Journal.counts h).sum) [] := by
  have hfresh : Fresh ([] : Journal κ ω) :=
    ⟨rfl, rfl, rfl, rfl, fun _ hnote => absurd hnote List.not_mem_nil⟩
  have hstart : Fed feed ([] : Journal κ ω) := ⟨hfresh.unfailing, rfl⟩
  have hpump : (pump pace source columns loader : Work κ ω (ω × Except Error Nat)).Leads
      (Noting (Within feed.length)) (Pumped [] loader source columns _) [] :=
    leads_pump pace hfetches hfresh
  refine (hpump.narrow (fun _ _ _ hs hanswer => ⟨hanswer.1, hs.note hanswer⟩)
    (fun _ _ _ _ hmay => exists_feeding loader _ hmay) hstart).mono ?_
  rintro ⟨last, outcome⟩ h ⟨hfed, hpumped⟩
  cases outcome with
  | error e =>
    -- a copy fails only with the error of a call that failed
    have hfirst : Journal.firstError? h = some e := hpumped.2
    rw [hfed.unfailing.firstError?] at hfirst
    cases hfirst
  | ok n =>
    obtain ⟨-, hmoved, hbatched, rfl⟩ := hpumped
    obtain ⟨full, hchunks, hfull⟩ := hmoved.exhausted
    obtain rfl : full = feed := hfed.eq_feed hfeed hchunks hfull
    refine ⟨hchunks, ?_, hbatched, fun batch hbatch => ?_, rfl⟩
    · rw [← hfed.unfailing.stored_eq, hmoved.stored, hchunks, List.flatten_append]
      exact List.append_nil _
    · exact (Nat.mul_le_mul_right _ (hbatched.atMost batch hbatch)).trans
        (batchSize_mul_le pace.batch hcolumns)

/-- Three notes, read one and then two at a time. -/
def threeNotes : List (List Row) := [[[some "1"]], [[some "2"], [some "3"]]]

theorem batched_of_threeNotes :
    (∀ rows ∈ threeNotes, rows ≠ []) ∧ threeNotes.length < 3 ∧
      (pump ⟨2, 2, 3⟩ "note" [⟨"id", .text, false, false⟩] () :
        Work Unit Unit (Unit × Except Error Nat)).Leads (Noting (Feeding threeNotes))
        (fun (_, outcome) h => Journal.chunks h = threeNotes ++ [[]] ∧
          (Journal.batches h).flatten = [[some "1"], [some "2"], [some "3"]] ∧
          Batched 2 (Journal.batches h) ∧ outcome = .ok (Journal.counts h).sum) [] := by
  have hpump : (pump ⟨2, 2, 3⟩ "note" [⟨"id", .text, false, false⟩] () :
      Work Unit Unit (Unit × Except Error Nat)).Leads _ _ [] :=
    batched_of_pump ⟨2, 2, 3⟩ "note" () threeNotes (by decide) (by decide) (by decide)
  refine ⟨by decide, by decide, hpump.mono ?_⟩
  rintro ⟨_, outcome⟩ h ⟨hchunks, hflatten, hbatched, -, houtcome⟩
  exact ⟨hchunks, hflatten, hbatched, houtcome⟩

end Granary.Replica
