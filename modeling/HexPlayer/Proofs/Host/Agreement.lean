import HexPlayer.Proofs.Host.Settling
import HexPlayer.Proofs.Host.StateLine
import HexPlayer.Proofs.Session.Titles

/-!
# Keyboard and session agree on the title

The keyboard remembers the title it selected last and moves on from that, without asking the
session. At the start of every frame the session has the same title selected, so that every move is
a move from the selected title (`follows_script`). This is the title on show as well, unless the
selection of it showed nothing.
-/

namespace HexPlayer

namespace Host

open Session (Config Effects Event Operation Stage after deeds fresh panels stages)
open Cartridge (Source)
open Terminal (Report beforeQuit heard)

variable {M D : Type} [Machine M] [Display D] {cfg : Config} {source : Source}

/-- The keyboard remembers the title that the session has selected, and it is on offer. -/
structure Agrees (h : Host M D) : Prop where
  same : h.keyboard.title = h.session.desk.selected
  listed : ∀ title, h.session.desk.selected = some title → Catalog.isListed title = true

/-- The title chosen is so many places away from the one that was selected before. -/
def Follows (choice : Option String × String) (step : Int) : Prop :=
  choice.2 = Catalog.move choice.1 step

/-- Keyboard and session agree after booting, whatever the default title is. -/
theorem agrees_start (cfg : Config) (reportsReleases : Bool) (holdFrames : Nat) (machine : M)
    (display : D) : Agrees (start cfg reportsReleases holdFrames machine display).host := by
  let started := start cfg reportsReleases holdFrames machine display
  have selected : started.host.session.desk.selected =
      cfg.defaultTitle.filter Catalog.isListed := by
    rw [show started.host.session = _ from session_start .., Session.selected_after]
    cases chosen : cfg.defaultTitle.filter Catalog.isListed <;>
      simp [Operation.selection?, chosen, fresh]
  refine ⟨selected.symm, fun title isSelected => ?_⟩
  rw [selected] at isSelected
  exact (Option.filter_eq_some_iff.mp isSelected).2

/-- A frame that does not quit keeps keyboard and session in agreement. -/
theorem agrees_frame (h : Host M D) (reports : List Report) (agrees : Agrees h)
    (goesOn : reports.any Report.quits = false) : Agrees (h.frame cfg source reports).host := by
  let titles := (heard (h.keyboard.forFrame reports).1).filterMap Event.title?
  have plain := isPlain_eventsOf cfg source reports h
  have selected : (h.frame cfg source reports).host.session.desk.selected =
      titles.getLast?.or h.session.desk.selected := by
    have chosen : (h.operations cfg source reports).filterMap (Operation.selection? cfg) =
        titles := by
      rw [operations_eq, List.filterMap_cons_none (by rfl), Session.selections_events cfg plain,
        titles_eventsOf]
    rw [session_frame, Session.selected_after, chosen]
  have remembered : (h.frame cfg source reports).host.keyboard.title =
      titles.getLast?.or h.keyboard.title := by
    rw [frame_eq]
    exact h.keyboard.title_forFrame goesOn
  refine ⟨by rw [remembered, selected, agrees.same], fun title isSelected => ?_⟩
  rw [selected, Option.or_eq_some_iff] at isSelected
  rcases isSelected with moved | ⟨-, before⟩
  · obtain ⟨event, hears, isTitle⟩ := List.mem_filterMap.mp (List.mem_of_getLast? moved)
    have isPlain := h.keyboard.isPlain_of_mem_heard reports hears
    cases event with
    | select other =>
      obtain rfl : other = title := Option.some.inj isTitle
      exact isPlain
    | _ => cases isTitle
  · exact agrees.listed title before

/-- Plain events whose titles are a course from the selected title select each title by a move from
the one before. -/
theorem follows_events {events : List Event} (plain : ∀ event ∈ events, event.isPlain = true)
    (s : Session M D) {steps : List Int}
    (course : events.filterMap Event.title? = Catalog.course s.desk.selected steps) :
    List.Forall₂ Follows ((stages cfg (events.map .handle) s).filterMap Stage.choice?) steps := by
  induction events generalizing s steps with
  | nil =>
    cases steps with
    | nil => exact .nil
    | cons step steps => cases course
  | cons event events ih =>
    have plainLater : ∀ other ∈ events, other.isPlain = true := fun other member =>
      plain other (List.mem_cons_of_mem _ member)
    have selected := Session.selected_operate cfg s (.handle event)
    cases event with
    | select title =>
      cases steps with
      | nil => cases course
      | cons step steps =>
        obtain ⟨isMove, rest⟩ := List.cons.inj course
        rw [Session.selection?_eq_some (plain _ List.mem_cons_self), Option.some_or] at selected
        refine .cons isMove (ih plainLater _ ?_)
        rw [selected, isMove]
        exact rest
    | fetched ticket result => cases plain _ List.mem_cons_self
    | _ => exact ih plainLater _ (by rw [selected]; exact course)

/-- The choices of a frame that starts in agreement follow its moves before it quits. -/
theorem follows_frame {h : Host M D} (agrees : Agrees h) (reports : List Report) :
    List.Forall₂ Follows
      ((stages cfg (h.operations cfg source reports) h.session).filterMap Stage.choice?)
      ((beforeQuit reports).filterMap Report.step?) := by
  have served : (h.session.operate cfg (.serveAll source)).session.desk.selected =
      h.keyboard.title := by
    rw [Session.selected_operate, agrees.same]
    rfl
  rw [operations_eq]
  refine follows_events (isPlain_eventsOf cfg source reports h) _ ?_
  rw [titles_eventsOf, h.keyboard.titles_heard, served]

/-- No operation of a frame is refused for its title. -/
theorem known_frame (reports : List Report) (h : Host M D) :
    ∀ stage ∈ stages cfg (h.operations cfg source reports) h.session,
      ∀ title, stage.outcome.error ≠ some (.unknownTitle title) := by
  intro stage member title refused
  obtain ⟨before, op, rest, isRun, rfl⟩ := Session.exists_of_mem_stages member
  have isOp : op ∈ h.operations cfg source reports := by
    rw [isRun]
    simp
  rw [operations_eq, List.mem_cons, List.mem_map] at isOp
  rcases Session.unknown_operate refused with rfl | ⟨rfl, unlisted⟩
  · simp at isOp
  · obtain serves | ⟨event, raised, isSelection⟩ := isOp
    · cases serves
    · obtain rfl := Operation.handle.inj isSelection
      have listed : Catalog.isListed title = true :=
        isPlain_eventsOf cfg source reports h _ raised
      rw [unlisted] at listed
      cases listed

/-- From agreement on, the choices of a script follow the moves of the frames that have a turn. -/
theorem follows_script {h : Host M D} (agrees : Agrees h) (frames : List (List Report)) :
    List.Forall₂ Follows
      ((stages cfg (h.script cfg source frames) h.session).filterMap Stage.choice?)
      ((frames.take (h.turns cfg source frames).length).flatMap fun reports =>
        (beforeQuit reports).filterMap Report.step?) := by
  induction frames generalizing h with
  | nil => exact .nil
  | cons reports frames ih =>
    rw [script, Session.stages_append, List.filterMap_append, turns, List.length_cons,
      List.take_succ_cons, List.flatMap_cons, quit_frame]
    apply List.rel_append (follows_frame agrees reports)
    cases goesOn : reports.any Report.quits with
    | true => exact .nil
    | false =>
      rw [if_neg Bool.false_ne_true, if_neg Bool.false_ne_true, ← session_frame]
      exact ih (agrees_frame h reports agrees goesOn)

/-- A frame in which keyboard and session work on one title. -/
structure InStep (cfg : Config) (source : Source) (h : Host M D) (reports : List Report)
    (p : Progress M D) : Prop where
  /-- They agree when the frame starts. -/
  agrees : Agrees h
  /-- The session carries out the operations of the frame, and nothing else is done. -/
  session : p.host.session = after cfg (h.operations cfg source reports) h.session
  done : p.deeds = journaled cfg (h.operations cfg source reports) h.session
  /-- What is done are the effects on the devices. -/
  effects : Effects h.session p.deeds p.host.session
  /-- None of them is refused for its title. -/
  known : ∀ stage ∈ stages cfg (h.operations cfg source reports) h.session,
    ∀ title, stage.outcome.error ≠ some (.unknownTitle title)
  /-- The titles chosen follow the moves of the frame before it quits, each from the title that is
  selected when its turn comes. -/
  follows : List.Forall₂ Follows
    ((stages cfg (h.operations cfg source reports) h.session).filterMap Stage.choice?)
    ((beforeQuit reports).filterMap Report.step?)

/-- Keyboard and session are in step in a frame that starts in agreement. -/
theorem inStep_frame {h : Host M D} (agrees : Agrees h) (reports : List Report) :
    InStep cfg source h reports (h.frame cfg source reports) where
  agrees := agrees
  session := h.session_frame cfg source reports
  done := h.deeds_frame cfg source reports
  effects := h.effects_frame cfg source reports
  known := known_frame reports h
  follows := follows_frame agrees reports

/-- Keyboard and session of a show are in step, whatever machine, display and source do. The titles
chosen follow the moves of the frames, each from the title that is selected then. This is the title
that was shown last, unless a selection went by since that showed nothing. -/
theorem titles_in_step (cfg : Config) (source : Source) (reportsReleases : Bool)
    (holdFrames : Nat) (machine : M) (display : D) (frames : List (List Report)) :
    let played := play cfg source reportsReleases holdFrames machine display frames
    let ops := .boot :: played.start.host.script cfg source frames
    let s := fresh cfg machine display
    (∀ earlier p later, played.turns = earlier ++ p :: later →
      ∃ reports, frames[earlier.length]? = some reports ∧
        InStep cfg source (played.start.host.afterTurns earlier) reports p) ∧
    played.final.session = after cfg ops s ∧
    List.Forall₂ Follows ((stages cfg ops s).filterMap Stage.choice?)
      ((frames.take played.turns.length).flatMap fun reports =>
        (beforeQuit reports).filterMap Report.step?) ∧
    ∀ before stage later, stages cfg ops s = before ++ stage :: later →
      let done := before.flatMap fun other => other.outcome.deeds
      Effects s done stage.before ∧
      ∀ choice, stage.choice? = some choice →
        choice.1 = stage.before.desk.selected ∧
        ((∀ other ∈ before.rtakeWhile fun other => !other.shows,
            other.operation.selection? cfg = none) →
          ∀ panel, (panels done).getLast? = some panel → panel.title = choice.1) := by
  intro played ops s
  have agreesAtFirst : Agrees played.start.host :=
    agrees_start cfg reportsReleases holdFrames machine display
  have booted : played.start.host.session = (s.operate cfg .boot).session := session_start ..
  refine ⟨fun earlier p later split => ?_, ?_, ?_, ?_⟩
  · obtain ⟨before, reports, rest, rfl, rfl, length, goOn, rfl, -⟩ := eq_of_turns_eq split
    have agrees : Agrees (played.start.host.afterTurns
        (played.start.host.turns cfg source before)) :=
      keeps_afterTurns Agrees agrees_frame goOn agreesAtFirst
    exact ⟨reports, by simp [length], inStep_frame agrees reports⟩
  · rw [Session.after_cons, ← booted]
    exact (turns_eq cfg source frames played.start.host).1
  · -- booting chooses no title
    change List.Forall₂ Follows
      ((stages cfg _ (s.operate cfg .boot).session).filterMap Stage.choice?) _
    rw [← booted]
    exact follows_script agreesAtFirst frames
  · intro before stage later split done
    obtain ⟨earlier, op, rest, -, rfl, rfl, -⟩ := Session.eq_of_stages_eq split
    refine ⟨Session.effects_after cfg earlier s, fun choice chooses => ?_⟩
    have selected := Session.fst_of_choice? chooses
    refine ⟨selected, fun noneHidden panel last => ?_⟩
    exact (Session.title_of_shown noneHidden last).trans selected.symm

/-- The down key goes down. -/
def down : Report := .key { code := .down }

/-- Two pixels in a row, and the usual title to begin with. -/
def twoPixelsOfPong : Config := { resolution := ⟨2, 1⟩, pixelSize := 1 }

/-- A machine whose frames lose a pixel at the first tick and never fit again. -/
def losingPixel : StandIn.Scripted := ⟨#[0, 0], [#[1]]⟩

/-- A player starts the session, moves down and starts it again, and moves down once more. -/
def startedMoves : List (List Report) := [[space], [down, space], [down]]

/-- The show of such a player on such a machine, of which nothing is seen after booting. -/
def unseenShow : Show StandIn.Scripted StandIn.Roll :=
  play twoPixelsOfPong (.ofPrograms []) true 6 losingPixel {} startedMoves

/-- The stages of that show. -/
def unseenStages : List (Stage StandIn.Scripted StandIn.Roll) :=
  stages twoPixelsOfPong
    (.boot :: unseenShow.start.host.script twoPixelsOfPong (.ofPrograms []) startedMoves)
    (fresh twoPixelsOfPong losingPixel {})

/-- A player who sees nothing of what is selected leaves keyboard and session in step, and the first
of the unseen moves is one from the title on show. -/
theorem titles_in_step_unseen :
    let first := unseenShow.start.host.frame twoPixelsOfPong (.ofPrograms []) [space]
    let second := first.host.frame twoPixelsOfPong (.ofPrograms []) [down, space]
    let third := second.host.frame twoPixelsOfPong (.ofPrograms []) [down]
    let before := unseenStages.take 5
    unseenShow.turns = [first, second] ++ third :: [] ∧ Agrees second.host ∧
      second.host.keyboard.title = some "15PUZZLE" ∧
      (unseenShow.final.session.display.seen.map fun shown => shown.2.title) = [some "PONG"] ∧
      (∀ other ∈ before.rtakeWhile fun other => !other.shows,
        other.operation.selection? twoPixelsOfPong = none) ∧
      ∃ stage choice panel, unseenStages[5]? = some stage ∧ stage.choice? = some choice ∧
        choice.2 = "15PUZZLE" ∧ choice.1 = stage.before.desk.selected ∧
        (panels (before.flatMap fun other => other.outcome.deeds)).getLast? = some panel ∧
        panel.title = choice.1 ∧ choice.1 = some "PONG" := by
  intro first second third before
  have split : unseenShow.turns = [first, second] ++ third :: [] := by
    have shown : unseenShow.turns =
        unseenShow.start.host.turns twoPixelsOfPong (.ofPrograms []) startedMoves := rfl
    have starts : [space].any Report.quits = false := rfl
    have moves : [down, space].any Report.quits = false := rfl
    have movesOn : [down].any Report.quits = false := rfl
    rw [shown, startedMoves, turns_cons_of_goesOn _ _ starts, turns_cons_of_goesOn _ _ moves,
      turns_cons_of_goesOn _ _ movesOn]
    rfl
  obtain ⟨inStep, -, -, choices⟩ := titles_in_step twoPixelsOfPong (.ofPrograms []) true 6
    losingPixel ({} : StandIn.Roll) startedMoves
  obtain ⟨reports, -, frame⟩ := inStep [first, second] third [] split
  have noneHidden : ∀ other ∈ before.rtakeWhile fun other => !other.shows,
      other.operation.selection? twoPixelsOfPong = none := by decide +kernel
  have chosen : unseenStages[5]?.bind Stage.choice? = some (some "PONG", "15PUZZLE") := by
    decide +kernel
  have shown : (panels (before.flatMap fun other => other.outcome.deeds)).getLast?.isSome := by
    decide +kernel
  obtain ⟨stage, isStage, chooses⟩ := Option.bind_eq_some_iff.mp chosen
  obtain ⟨panel, last⟩ := Option.isSome_iff_exists.mp shown
  obtain ⟨-, told⟩ := choices before stage _ (eq_append_of_getElem? isStage)
  obtain ⟨selected, fromShown⟩ := told _ chooses
  exact ⟨split, frame.agrees, by decide +kernel, by decide +kernel, noneHidden, stage, _, panel,
    isStage, chooses, rfl, selected, last, fromShown noneHidden panel last, rfl⟩

/-- The second of the unseen moves leads to a title that is next to the one on show in neither
direction: a player does not always move from the title on show. -/
theorem move_not_from_shown :
    ¬ ∀ before stage later, unseenStages = before ++ stage :: later →
      ∀ choice, stage.choice? = some choice →
      ∀ shown, stage.before.display.seen.getLast? = some shown →
        choice.2 = Catalog.move shown.2.title (-1) ∨ choice.2 = Catalog.move shown.2.title 1 := by
  intro claimed
  have chosen : unseenStages[9]?.bind Stage.choice? = some (some "15PUZZLE", "BLITZ") := by
    decide +kernel
  have onShow : (unseenStages[9]?.bind fun stage => stage.before.display.seen.getLast?).map
      (fun shown => shown.2.title) = some (some "PONG") := by decide +kernel
  obtain ⟨stage, isStage, chooses⟩ := Option.bind_eq_some_iff.mp chosen
  rw [isStage, Option.bind_some] at onShow
  obtain ⟨shown, last, title⟩ := Option.map_eq_some_iff.mp onShow
  have isNext := claimed _ _ _ (eq_append_of_getElem? isStage) _ chooses shown last
  rw [title] at isNext
  revert isNext
  decide

end Host

end HexPlayer
