import Granary.Proofs.Replica.Journal

/-!
# One load, one transaction

Copying a table begins a load, passes rows on to it any number of times and ends it once, whatever
its calls are answered.  The load is committed behind a cursor that has been read to its end, stored
and closed, and rolled back in all other cases.  What a copy fails with is the first failure there
was; a rollback that fails too does not hide it.
-/

namespace Granary.Replica

open Program (Leads Noting leads_ask runs_ask)

variable {κ ω : Type}

/-- The calls of a copy by what becomes of its load. -/
inductive Transacted (source table : String) (columns : List Column) (mode : LoadMode) :
    Journal κ ω → Prop where
  | refused (e : Error) : Transacted source table columns mode
      [⟨.beginLoad table columns mode, .error e⟩]
  | committed {body js : Journal κ ω} {first last : ω}
      (hbody : body.loaderCalls = ⟨.beginLoad table columns mode, .ok first⟩ :: js)
      (hjs : Inserts first js last) (hmoved : Moved source columns body)
      (outcome : Except Error Unit) :
      Transacted source table columns mode (body ++ [⟨.commit last, outcome⟩])
  | rolledBack {body js : Journal κ ω} {first last : ω}
      (hbody : body.loaderCalls = ⟨.beginLoad table columns mode, .ok first⟩ :: js)
      (hjs : Inserts first js last) (outcome : Except Error Unit) :
      Transacted source table columns mode (body ++ [⟨.rollback last, outcome⟩])

/-- A failure to copy into a table that tells its cause, unless the cause is such a failure. -/
structure Reports (table : String) (cause e : Error) : Prop where
  kept : ∀ inner why, cause = .bulkCopyFailure inner why → e = cause
  wrapped : (∀ inner why, cause ≠ .bulkCopyFailure inner why) → e = .bulkCopyFailure table cause

theorem reports_copyFailure (table : String) (cause : Error) :
    Reports table cause (copyFailure table cause) where
  kept inner why h := by
    rw [h]
    rfl
  wrapped h := by
    cases cause with
    | bulkCopyFailure inner why => exact absurd rfl (h inner why)
    | _ => rfl

/-- How a copy ends. -/
structure Accounted (source table : String) (columns : List Column) (mode : LoadMode)
    (outcome : Except Error Nat) (h : Journal κ ω) : Prop where
  transacted : Transacted source table columns mode h
  succeeds_iff : (∃ n, outcome = .ok n) ↔ ∃ loader, ⟨.commit loader, .ok ()⟩ ∈ h
  reports : ∀ e, outcome = .error e → ∃ cause, h.firstError? = some cause ∧ Reports table cause e

variable {source table : String} {columns : List Column} {mode : LoadMode}

theorem Inserts.eq_insertBatch {first last : ω} {js : Journal κ ω} (h : Inserts first js last)
    {note : Note κ ω} (hnote : note ∈ js) : ∃ loader rows, note.1 = .insertBatch loader rows := by
  induction h with
  | none => exact absurd hnote List.not_mem_nil
  | insert h rows next count ih =>
    rcases List.mem_append.1 hnote with hnote | hnote
    · exact ih hnote
    · rw [List.mem_singleton.1 hnote]
      exact ⟨_, _, rfl⟩

/-- Nothing is committed before the end. -/
theorem Inserts.not_commit {body js : Journal κ ω} {first last : ω}
    (hbody : body.loaderCalls = ⟨.beginLoad table columns mode, .ok first⟩ :: js)
    (hjs : Inserts first js last) {note : Note κ ω}
    (hnote : ∀ loader, note ≠ ⟨.commit loader, .ok ()⟩) (loader : ω) :
    (⟨.commit loader, .ok ()⟩ : Note κ ω) ∉ body ++ [note] := by
  intro hmem
  rcases List.mem_append.1 hmem with hmem | hend
  · have hcall : (⟨.commit loader, .ok ()⟩ : Note κ ω) ∈ body.loaderCalls :=
      List.mem_filter.2 ⟨hmem, rfl⟩
    rw [hbody] at hcall
    rcases List.mem_cons.1 hcall with hfirst | hlater
    · cases hfirst
    · obtain ⟨_, _, hinsert⟩ := hjs.eq_insertBatch hlater
      cases hinsert
  · exact hnote loader (List.mem_singleton.1 hend).symm

theorem Transacted.fails {h : Journal κ ω} (ht : Transacted source table columns mode h) {e : Error}
    (hnone : ∀ loader, (⟨.commit loader, .ok ()⟩ : Note κ ω) ∉ h) (he : h.firstError? = some e) :
    Accounted source table columns mode (.error (copyFailure table e)) h where
  transacted := ht
  succeeds_iff := ⟨nofun, fun ⟨loader, hmem⟩ => absurd hmem (hnone loader)⟩
  reports := by
    rintro _ ⟨⟩
    exact ⟨e, he, reports_copyFailure table e⟩

/-- Whatever its calls are answered, a copy begins one load and ends it once: it commits behind a
cursor that is read to its end and closed, with every row stored, and rolls back otherwise.  It
succeeds exactly if a commit does, and else reports the first failure there was. -/
theorem accounted_of_copyTable (pace : Pace) (source table : String) (columns : List Column)
    (mode : LoadMode) {limit : Nat} (hfetches : limit < pace.fetches) :
    (copyTable pace source table columns mode : Attempt κ ω Nat).run.Leads
      (Noting (Within limit)) (Accounted source table columns mode) [] := by
  refine leads_ask ⟨.error .yaml, trivial⟩ fun outcome _ => ?_
  cases outcome with
  | error e =>
    refine Transacted.fails (.refused e) (fun loader hmem => ?_) rfl
    cases List.mem_singleton.1 hmem
  | ok first =>
    have hfresh : Fresh ([] ++ [⟨.beginLoad table columns mode, .ok first⟩] : Journal κ ω) :=
      ⟨rfl, rfl, rfl, rfl, List.forall_mem_singleton.2 rfl⟩
    refine (leads_pump pace hfetches hfresh).bind ?_
    rintro ⟨loader, outcome⟩ body hbody
    cases outcome with
    | error e =>
      obtain ⟨⟨js, hjs, hinserts⟩, hfirst⟩ := hbody
      refine leads_ask ⟨.ok (), trivial⟩ fun rolled _ => ?_
      refine (Transacted.rolledBack hjs hinserts rolled).fails
        (hinserts.not_commit hjs fun _ => nofun) ?_
      -- what the rollback comes to is behind the first failure
      rw [Journal.firstError?_append, hfirst]
      rfl
    | ok n =>
      obtain ⟨⟨js, hjs, hinserts⟩, hmoved, -, -⟩ := hbody
      refine leads_ask ⟨.ok (), trivial⟩ fun committed _ => ?_
      have htransacted := Transacted.committed hjs hinserts hmoved committed
      cases committed with
      | error e =>
        refine htransacted.fails (hinserts.not_commit hjs fun _ => nofun) ?_
        rw [Journal.firstError?_append, hmoved.unfailing.firstError?]
        rfl
      | ok _ =>
        refine ⟨htransacted, ⟨fun _ => ⟨loader, ?_⟩, fun _ => ⟨n, rfl⟩⟩, nofun⟩
        exact List.mem_append_right _ (List.mem_singleton_self _)

/-- The copy of a note that can be neither read nor taken back. -/
def lostNote : Journal Unit Unit := [
  ⟨.beginLoad "shop__note" [⟨"id", .text, false, false⟩] .create, .ok ()⟩,
  ⟨.openCursor "note" [⟨"id", .text, false, false⟩] 1, .ok ()⟩,
  ⟨.nextChunk (), ((), .error (.execution .noConnection))⟩,
  ⟨.dropCursor (), ()⟩,
  ⟨.rollback (), .error (.execution .unreachable)⟩]

theorem runs_lostNote : Program.Runs (Noting (Within 1))
    (copyTable ⟨1, 1, 2⟩ "note" "shop__note" [⟨"id", .text, false, false⟩] .create :
      Attempt Unit Unit Nat).run []
    (some (.error (.bulkCopyFailure "shop__note" (.execution .noConnection)))) lostNote :=
  runs_ask (.ok ()) trivial <| runs_ask (.ok ()) trivial <|
    runs_ask ((), .error (.execution .noConnection)) trivial <| runs_ask () trivial <|
    runs_ask (.error (.execution .unreachable)) trivial <| .done _ _

theorem accounted_of_lostNote : 1 < (⟨1, 1, 2⟩ : Pace).fetches ∧
    Accounted "note" "shop__note" [⟨"id", .text, false, false⟩] .create
      (.error (.bulkCopyFailure "shop__note" (.execution .noConnection))) lostNote :=
  ⟨by decide, (accounted_of_copyTable ⟨1, 1, 2⟩ "note" "shop__note" _ .create (by decide)).result
    runs_lostNote⟩

end Granary.Replica
