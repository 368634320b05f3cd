import HexPlayer.Proofs.Cartridge.Reading
import HexPlayer.Proofs.Host.Settling
import HexPlayer.Proofs.Session.Draining

/-!
# One limit for shelf and session

A shelf reads one byte past its limit, and a session has a limit of its own. If the two are the
same, it makes no difference to the session whether it hears what the shelf makes of a file or gets
the whole file. A host whose programs come from shelves with the limit of its session never brings
the session a program that is too large.
-/

namespace HexPlayer

open Cartridge (Program Request Shelf Source Ticket)

namespace Session

section Completion

variable {cfg : Config} {shelf : Shelf} {title : String} {bytes : Program}

/-- A session with the limit of a shelf admits of a file what the shelf makes of it. -/
theorem admitted?_deliver (same : shelf.limit = cfg.maxProgramLength)
    (found : shelf.find title = .ok (.file bytes)) (size : bytes.size < UInt64.size) :
    cfg.admitted? (shelf.deliver title).result = cfg.admitted? (.ok bytes) := by
  rw [Shelf.result_deliver_of_find found size, same]
  by_cases fits : bytes.size ≤ cfg.maxProgramLength
  · rw [if_pos fits]
  · simp [fits, Config.admitted?]

/-- A file beyond the limit is refused by a session with its size, and by the shelf with the size
that was read of it. -/
theorem refusal?_deliver (same : shelf.limit = cfg.maxProgramLength)
    (found : shelf.find title = .ok (.file bytes)) (size : bytes.size < UInt64.size) :
    (bytes.size ≤ cfg.maxProgramLength →
      cfg.refusal? title (shelf.deliver title).result = none ∧
        cfg.refusal? title (.ok bytes) = none) ∧
    (cfg.maxProgramLength < bytes.size →
      cfg.refusal? title (shelf.deliver title).result =
          some (.cartridge (.tooLarge title (cfg.maxProgramLength + 1) cfg.maxProgramLength)) ∧
        cfg.refusal? title (.ok bytes) =
          some (.cartridge (.tooLarge title bytes.size cfg.maxProgramLength))) := by
  rw [Shelf.result_deliver_of_find found size, same]
  constructor
  · intro fits
    simp [fits, Config.refusal?]
  · intro exceeds
    have beyond : ¬ bytes.size ≤ cfg.maxProgramLength := Nat.not_le.mpr exceeds
    simp [beyond, exceeds, Config.refusal?]

variable {M D : Type} [Machine M] [Display D]

/-- While a request is awaited, the session hears of its file what the shelf makes of it as it hears
of the whole file: the file is loaded, or nothing is done and it is too large, if not with the same
size. -/
theorem handle_deliver_eq {s : Session M D} {request : Request}
    (awaited : s.desk.awaited = some request.ticket)
    (selected : s.desk.selected = some request.title) (same : shelf.limit = cfg.maxProgramLength)
    (found : shelf.find request.title = .ok (.file bytes)) (size : bytes.size < UInt64.size) :
    let read := s.handle cfg (.fetched request.ticket (shelf.deliver request.title).result)
    let whole := s.handle cfg (.fetched request.ticket (.ok bytes))
    read.session = whole.session ∧ read.deeds = whole.deeds ∧
      (bytes.size ≤ cfg.maxProgramLength →
        whole.session.machine = Machine.call (.load bytes) s.machine ∧
          calls whole.deeds = [.load bytes] ∧ read.error = none ∧ whole.error = none) ∧
      (cfg.maxProgramLength < bytes.size →
        whole.session.machine = s.machine ∧ calls whole.deeds = [] ∧
          read.error =
            some (.cartridge
              (.tooLarge request.title (cfg.maxProgramLength + 1) cfg.maxProgramLength)) ∧
          whole.error =
            some (.cartridge (.tooLarge request.title bytes.size cfg.maxProgramLength))) := by
  intro read whole
  have readEq : read = _ := handle_of_awaited cfg awaited _
  have wholeEq : whole = _ := handle_of_awaited cfg awaited _
  have isTitle : s.desk.selected.getD "" = request.title := by rw [selected, Option.getD_some]
  -- session and deeds hang on the admitted program alone, and both completions admit the same
  have admitted := admitted?_deliver same found size
  obtain ⟨within, beyond⟩ := refusal?_deliver same found size
  refine ⟨?_, ?_, fun fits => ?_, fun exceeds => ?_⟩
  · rw [readEq, wholeEq, admitted]
  · rw [readEq, wholeEq, acceptance, admitted, ← acceptance]
  · have loads : cfg.admitted? (.ok bytes) = some bytes := if_pos fits
    obtain ⟨readNone, wholeNone⟩ := within fits
    rw [readEq, wholeEq, acceptance, loads, isTitle]
    exact ⟨rfl, rfl, readNone, wholeNone⟩
  · have loadsNone : cfg.admitted? (.ok bytes) = none := if_neg (Nat.not_le.mpr exceeds)
    obtain ⟨readError, wholeError⟩ := beyond exceeds
    rw [readEq, wholeEq, acceptance, loadsNone, isTitle]
    exact ⟨rfl, rfl, readError, wholeError⟩

end Completion

section Hosted

/-- What a host does to its session: it boots it, serves its requests from the source, and hands it
plain events. -/
inductive Hosted (source : Source) : Operation → Prop where
  | boot : Hosted source .boot
  | serve : Hosted source (.serveAll source)
  | handle {event : Event} (isPlain : event.isPlain = true) : Hosted source (.handle event)

variable {M D : Type} [Machine M] [Display D] {cfg : Config} {source : Source}
  {ops : List Operation}

/-- A completion in single steps of a hosted operation is what the source delivers. -/
theorem Hosted.delivered {op : Operation} (hosted : Hosted source op) {d : Desk} {ticket : Ticket}
    {result : Except Cartridge.Error Program}
    (completes : .handle (.fetched ticket result) ∈ op.steps d) :
    ∃ request, (source.deliver request).result = result := by
  cases hosted with
  | boot => simp [Operation.steps] at completes
  | serve =>
    obtain ⟨request, -, serving⟩ := List.mem_flatMap.mp completes
    simp only [Session.serving, List.mem_cons, reduceCtorEq, Step.handle.injEq,
      Event.fetched.injEq, List.not_mem_nil, or_false, false_or] at serving
    exact ⟨request, serving.2.symm⟩
  | handle isPlain =>
    simp only [Operation.steps, List.mem_singleton, Step.handle.injEq] at completes
    subst completes
    cases isPlain

/-- Every completion of a hosted run is what the source delivers. -/
theorem delivered_of_mem_singleStages (hosted : ∀ op ∈ ops, Hosted source op) {s : Session M D}
    {stage : Stage M D} (member : stage ∈ singleStages cfg ops s) {ticket : Ticket}
    {result : Except Cartridge.Error Program}
    (completes : stage.operation = .handle (.fetched ticket result)) :
    ∃ request, (source.deliver request).result = result := by
  induction ops generalizing s with
  | nil => cases member
  | cons op ops ih =>
    rw [singleStages_cons] at member
    rcases List.mem_append.mp member with first | later
    · obtain ⟨before, told, rest, isRun, rfl⟩ := exists_of_mem_stages first
      have isTold : told ∈ (op.steps s.desk).map Step.operation := by
        rw [isRun]
        simp
      obtain ⟨step, isStep, rfl⟩ := List.mem_map.mp isTold
      obtain rfl := operation_eq_handle_iff.mp completes
      exact (hosted op List.mem_cons_self).delivered isStep
    · exact ih (fun other isLater => hosted other (List.mem_cons_of_mem _ isLater)) later

/-- A program within the limit is not refused, awaited or not. -/
theorem Takes.refusal_of_within {d : Desk} {ticket : Ticket} {program : Program}
    {decision : Decision} (takes : Takes cfg d (.handle (.fetched ticket (.ok program))) decision)
    (fits : program.size ≤ cfg.maxProgramLength) : decision.refusal = none := by
  cases takes with
  | superseded other => rfl
  | tooLarge awaited exceeds => exact absurd fits (Nat.not_le.mpr exceeds)
  | loaded awaited fits => rfl

/-- A completion with a program within the limit comes to no error. -/
theorem error_of_within {s : Session M D} {stage : Stage M D}
    (member : stage ∈ singleStages cfg ops s) {ticket : Ticket} {program : Program}
    (completes : stage.operation = .handle (.fetched ticket (.ok program)))
    (fits : program.size ≤ cfg.maxProgramLength) : stage.outcome.error = none := by
  obtain ⟨before, op, rest, -, rfl⟩ := exists_of_mem_stages member
  obtain rfl : op = Step.operation (.handle (.fetched ticket (.ok program))) := completes
  exact (error_operate_of_serves cfg _ rfl).trans ((takes_take cfg _ _).refusal_of_within fits)

end Hosted

end Session

namespace Host

open Session (Authentic Config Hosted Operation Stage after calls fresh singleStages stages)
open Terminal (Report)

variable {M D : Type} [Machine M] [Display D]

/-- The script of a host has hosted operations alone. -/
theorem hosted_script (cfg : Config) (source : Source) (frames : List (List Report))
    (h : Host M D) : ∀ op ∈ h.script cfg source frames, Hosted source op := by
  induction frames generalizing h with
  | nil => simp [script]
  | cons reports rest ih =>
    intro op member
    rw [script, operations_eq, List.mem_append, List.mem_cons] at member
    rcases member with (rfl | raised) | later
    · exact .serve
    · obtain ⟨event, isEvent, rfl⟩ := List.mem_map.mp raised
      exact .handle (isPlain_eventsOf cfg source reports h event isEvent)
    · split at later
      next => cases later
      next => exact ih _ op later

/-- The session of a show is the one that its operations lead to, and they are all hosted. -/
theorem hosted_play (cfg : Config) (source : Source) (reportsReleases : Bool) (holdFrames : Nat)
    (machine : M) (display : D) (frames : List (List Report)) :
    let played := play cfg source reportsReleases holdFrames machine display frames
    let ops := .boot :: played.start.host.script cfg source frames
    played.final.session = after cfg ops (fresh cfg machine display) ∧
      ∀ op ∈ ops, Hosted source op := by
  intro played ops
  constructor
  · have started : played.start.host.session = after cfg [.boot] (fresh cfg machine display) :=
      session_start cfg reportsReleases holdFrames machine display
    have ended := (turns_eq cfg source frames played.start.host).1
    rw [started, ← Session.after_append] at ended
    exact ended
  · intro op member
    rcases List.mem_cons.mp member with rfl | later
    · exact .boot
    · exact hosted_script cfg source frames _ op later

/-- The limit of a shelf and that of a session do the same. A shelf hands out a program on offer
whole if it is within the limit, and else has read just enough to tell. A session that awaits the
program, whatever it went through before, comes to the same from that as from the whole file, up to
the size that is reported. And where all programs come from shelves with the limit of the session,
it never is the session that finds one too large. -/
theorem limits_agree :
    (∀ (shelf : Shelf) title bytes, Catalog.isListed title = true → shelf.Holds title bytes →
      (∃ read, shelf.read title = .ok read ∧ read = bytes.take (shelf.limit + 1) ∧
        read.size ≤ shelf.limit + 1) ∧
      ((shelf.deliver title).result = .ok bytes ↔ bytes.size ≤ shelf.limit) ∧
      (shelf.limit < bytes.size →
        (shelf.deliver title).result =
          .error (.tooLarge title (shelf.limit + 1) shelf.limit))) ∧
    (∀ (cfg : Config) (machine : M) (display : D) (ops : List Operation),
      Authentic [] (stages cfg ops (fresh cfg machine display)) →
      let s := after cfg ops (fresh cfg machine display)
      ∀ request ∈ (stages cfg ops (fresh cfg machine display)).flatMap Stage.popped ++
          s.desk.outbox,
        s.desk.awaited = some request.ticket →
        ∀ (shelf : Shelf) bytes, shelf.limit = cfg.maxProgramLength →
          shelf.Holds request.title bytes →
          let read := s.handle cfg (.fetched request.ticket (shelf.deliver request.title).result)
          let whole := s.handle cfg (.fetched request.ticket (.ok bytes))
          read.session = whole.session ∧ read.deeds = whole.deeds ∧
            (bytes.size ≤ cfg.maxProgramLength →
              whole.session.machine = Machine.call (.load bytes) s.machine ∧
                calls whole.deeds = [.load bytes] ∧ read.error = none ∧ whole.error = none) ∧
            (cfg.maxProgramLength < bytes.size →
              whole.session.machine = s.machine ∧ calls whole.deeds = [] ∧
                read.error =
                  some (.cartridge
                    (.tooLarge request.title (cfg.maxProgramLength + 1) cfg.maxProgramLength)) ∧
                whole.error =
                  some (.cartridge
                    (.tooLarge request.title bytes.size cfg.maxProgramLength)))) ∧
    ∀ (cfg : Config) (source : Source) (reportsReleases : Bool) (holdFrames : Nat) (machine : M)
      (display : D) (frames : List (List Report)),
      (∀ request, ∃ shelf : Shelf, shelf.limit = cfg.maxProgramLength ∧
        source.deliver request = shelf.deliver request.title) →
      let played := play cfg source reportsReleases holdFrames machine display frames
      let ops := .boot :: played.start.host.script cfg source frames
      played.final.session = after cfg ops (fresh cfg machine display) ∧
        ∀ stage ∈ singleStages cfg ops (fresh cfg machine display), ∀ ticket program,
          stage.operation = .handle (.fetched ticket (.ok program)) →
          program.size ≤ cfg.maxProgramLength ∧ stage.outcome.error = none := by
  refine ⟨?shelves, ?sessions, ?shows⟩
  case shelves => exact fun shelf title bytes => Shelf.deliver_of_listed
  case sessions =>
    intro cfg machine display ops authentic s request isIssued awaited shelf bytes same holds
    have listed := Session.isListed_of_issued authentic isIssued
    have selected := Session.selected_of_awaited authentic isIssued awaited
    have found := Shelf.find_of_holds (Shelf.isName_of_isListed listed) holds
    exact Session.handle_deliver_eq awaited selected same found holds.size
  case shows =>
    intro cfg source reportsReleases holdFrames machine display frames shelves played ops
    obtain ⟨session, hosted⟩ :=
      hosted_play cfg source reportsReleases holdFrames machine display frames
    refine ⟨session, fun stage member ticket program completes => ?_⟩
    obtain ⟨request, delivered⟩ :=
      Session.delivered_of_mem_singleStages hosted member completes
    obtain ⟨shelf, same, answered⟩ := shelves request
    have fits : program.size ≤ cfg.maxProgramLength := by
      rw [answered] at delivered
      rw [← same]
      exact Shelf.size_le_of_deliver delivered
    exact ⟨fits, Session.error_of_within member completes fits⟩

/-- With a limit of one byte the shelf refuses a file of three for the two bytes that it has read, a
session that gets all three refuses it as well, and a file of one byte is handed out. -/
theorem limits_agree_on_pong :
    let shelf : Shelf := ⟨"roms", [(["PONG"], .file #[1, 2, 3]), (["UFO"], .file #[7])], 1⟩
    let machine : StandIn.Scripted := ⟨#[0, 0], []⟩
    let display : StandIn.Monitor := {}
    let s := after Session.cramped [.boot, .nextRequest] (fresh Session.cramped machine display)
    let read := s.handle Session.cramped (.fetched ⟨0⟩ (shelf.deliver "PONG").result)
    let whole := s.handle Session.cramped (.fetched ⟨0⟩ (.ok #[1, 2, 3]))
    (shelf.deliver "PONG").result = .error (.tooLarge "PONG" 2 1) ∧
      (shelf.deliver "UFO").result = .ok #[7] ∧
      read.session = whole.session ∧
      read.error = some (.cartridge (.tooLarge "PONG" 2 1)) ∧
      whole.error = some (.cartridge (.tooLarge "PONG" 3 1)) ∧
      let played := play Session.cramped shelf.source true 0 machine display [[]]
      played.final.session = after Session.cramped
        (.boot :: played.start.host.script Session.cramped shelf.source [[]])
        (fresh Session.cramped machine display) := by
  intro shelf machine display s read whole
  obtain ⟨shelves, sessions, shows⟩ := limits_agree (M := StandIn.Scripted) (D := StandIn.Monitor)
  have pong : shelf.Holds "PONG" #[1, 2, 3] := ⟨rfl, by decide +kernel, by decide⟩
  have ufo : shelf.Holds "UFO" #[7] := ⟨rfl, by decide +kernel, by decide⟩
  have authentic : Authentic []
      (stages Session.cramped [.boot, .nextRequest] (fresh Session.cramped machine display)) := by
    simp [Authentic, stages]
  obtain ⟨-, -, tooLarge⟩ := shelves shelf "PONG" _ (by decide) pong
  obtain ⟨-, handsOut, -⟩ := shelves shelf "UFO" _ (by decide) ufo
  obtain ⟨session, -, -, refused⟩ := sessions Session.cramped machine display _ authentic
    ⟨⟨0⟩, "PONG"⟩ (by decide +kernel) (by decide +kernel) shelf _ rfl pong
  obtain ⟨-, -, readError, wholeError⟩ := refused (by decide)
  obtain ⟨shown, -⟩ := shows Session.cramped shelf.source true 0 machine display [[]]
    fun _ => ⟨shelf, rfl, rfl⟩
  exact ⟨tooLarge (by decide), handsOut.mpr (by decide), session, readError, wholeError, shown⟩

end Host

end HexPlayer
