import ResearchPlatform.Foundation.Splits
import ResearchPlatform.Workflow.ResearchWorkflow

/-!
# The review protocol

A pipeline keeps to rounds when it opens a review only while none is open and
waits for a decision only while one is.  In every run of such a pipeline, with
signals between any of its steps, a round returns the first signal that arrived
since it was opened, and no other signal is ever returned.
-/

namespace ResearchPlatform

open Foundation Program

/-! ## Pipelines that keep to rounds -/

/-- Whether a review is open, as a pipeline's own calls tell. -/
inductive ReviewMark where
  | closed
  | opened
  | broken
  deriving DecidableEq

namespace ReviewMark

def observe : ReviewMark → PipelineEvent → ReviewMark
  | mark, ⟨.transition _ _ target _, _⟩ =>
      if target = .reviewRequired then
        if mark = closed then opened else broken
      else mark
  | mark, ⟨.awaitReviewerDecision .., _⟩ =>
      if mark = opened then closed else broken
  | mark, _ => mark

def monitor : Monitor PipelineCall PipelineCall.Answer PyException ReviewMark where
  observe := observe
  admits _ _ := True

/-- Open or closed, as the workflow's flag says. -/
def ofFlag (isOpen : Bool) : ReviewMark := if isOpen then opened else closed

end ReviewMark

/-- Whatever is answered, the pipeline opens a review only while none is open and
awaits a decision only while one is. -/
def InRounds {α : Type} (pipeline : Pipeline α) (mark : ReviewMark) : Prop :=
  Ensures ReviewMark.monitor pipeline mark fun _ last => last ≠ .broken

theorem not_inRounds_broken {α : Type} (pipeline : Pipeline α) :
    ¬ InRounds pipeline .broken := by
  induction pipeline with
  | finish outcome => exact fun inRounds => inRounds rfl
  | request call resume inductionHypothesis =>
      intro inRounds
      have still (answer : Except PyException call.Answer) :
          ReviewMark.observe .broken ⟨call, answer⟩ = .broken := by
        cases call <;> simp [ReviewMark.observe]
      let failure : PyException := { className := "", rendered := "" }
      have broken : InRounds (resume (.error failure))
          (ReviewMark.observe .broken ⟨call, .error failure⟩) :=
        inRounds (.error failure) trivial
      rw [still] at broken
      exact inductionHypothesis _ broken

theorem InRounds.rest {α : Type} {call : PipelineCall}
    {resume : Except PyException call.Answer → Pipeline α} {mark : ReviewMark}
    (inRounds : InRounds (.request call resume) mark)
    (answer : Except PyException call.Answer) :
    InRounds (resume answer) (mark.observe ⟨call, answer⟩) :=
  inRounds answer trivial

/-- The next call of a pipeline in rounds keeps to them. -/
theorem InRounds.observe_ne_broken {α : Type} {call : PipelineCall}
    {resume : Except PyException call.Answer → Pipeline α} {mark : ReviewMark}
    (inRounds : InRounds (.request call resume) mark)
    (answer : Except PyException call.Answer) :
    mark.observe ⟨call, answer⟩ ≠ .broken := by
  intro broken
  have rest := inRounds.rest answer
  rw [broken] at rest
  exact not_inRounds_broken _ rest

/-! ## The review that a history leaves open -/

namespace WorkflowEvent

def OpensReview : WorkflowEvent → Prop
  | called call => call.OpensReview
  | _ => False

def IsReturn : WorkflowEvent → Prop
  | returned _ => True
  | _ => False

def signal? : WorkflowEvent → Option ReviewSignal
  | signal arrived => some arrived
  | _ => none

end WorkflowEvent

/-- The signals of a history, in the order they arrived. -/
def signalsOf (history : List WorkflowEvent) : List ReviewSignal :=
  history.filterMap WorkflowEvent.signal?

/-- Within one round: no review is opened and no decision returned. -/
def WithinRound (events : List WorkflowEvent) : Prop :=
  ∀ event ∈ events, ¬ event.OpensReview ∧ ¬ event.IsReturn

/-- The history ends in an open review that has seen these signals. -/
def OpenReview (history : List WorkflowEvent) (arrived : List ReviewSignal) : Prop :=
  ∃ earlier call during,
    history = earlier ++ .called call :: during ∧ call.OpensReview ∧
      WithinRound during ∧ signalsOf during = arrived

/-- The history ends while no review is open. -/
def NoReview (history : List WorkflowEvent) : Prop :=
  WithinRound history ∨
    ∃ earlier signal since,
      history = earlier ++ .returned signal :: since ∧ WithinRound since

theorem withinRound_nil : WithinRound [] := by
  intro event member
  cases member

theorem WithinRound.snoc {events : List WorkflowEvent} {event : WorkflowEvent}
    (within : WithinRound events) (opens : ¬ event.OpensReview)
    (returns : ¬ event.IsReturn) : WithinRound (events ++ [event]) := by
  intro other member
  rcases List.mem_append.mp member with earlier | last
  · exact within other earlier
  · rw [List.mem_singleton.mp last]
    exact ⟨opens, returns⟩

/-- An event within the round adds its signal, if it is one. -/
theorem OpenReview.snoc {history : List WorkflowEvent} {event : WorkflowEvent}
    {arrived : List ReviewSignal} (isOpen : OpenReview history arrived)
    (opens : ¬ event.OpensReview) (returns : ¬ event.IsReturn) :
    OpenReview (history ++ [event]) (arrived ++ event.signal?.toList) := by
  obtain ⟨earlier, call, during, rfl, isOpening, within, rfl⟩ := isOpen
  refine ⟨earlier, call, during ++ [event], by simp, isOpening,
    within.snoc opens returns, ?_⟩
  cases found : event.signal? with
  | none => simp [signalsOf, found]
  | some signal => simp [signalsOf, found]

theorem NoReview.snoc {history : List WorkflowEvent} {event : WorkflowEvent}
    (noReview : NoReview history) (opens : ¬ event.OpensReview)
    (returns : ¬ event.IsReturn) : NoReview (history ++ [event]) := by
  rcases noReview with within | ⟨earlier, signal, since, rfl, within⟩
  · exact Or.inl (within.snoc opens returns)
  · exact Or.inr ⟨earlier, signal, since ++ [event], by simp,
      within.snoc opens returns⟩

/-- A history leaves one review open, or none. -/
theorem OpenReview.unique {history : List WorkflowEvent}
    {first second : List ReviewSignal} (one : OpenReview history first)
    (other : OpenReview history second) : first = second := by
  obtain ⟨earlier, call, during, equal, opens, within, rfl⟩ := one
  obtain ⟨others, otherCall, otherDuring, otherEqual, otherOpens, otherWithin, rfl⟩ :=
    other
  have agree := split_at_last_marked WorkflowEvent.OpensReview
    (equal.symm.trans otherEqual) opens otherOpens
    (fun event member => (within event member).1)
    (fun event member => (otherWithin event member).1)
  rw [agree.2.2]

theorem OpenReview.not_noReview {history : List WorkflowEvent}
    {arrived : List ReviewSignal} (isOpen : OpenReview history arrived) :
    ¬ NoReview history := by
  obtain ⟨earlier, call, during, rfl, opens, within, -⟩ := isOpen
  intro noReview
  rcases noReview with all | ⟨others, signal, since, equal, sinceWithin⟩
  · have member : WorkflowEvent.called call ∈ earlier ++ .called call :: during := by
      simp
    exact (all _ member).1 opens
  · have agree := split_at_last_marked
      (fun event : WorkflowEvent => event.OpensReview ∨ event.IsReturn) equal
      (Or.inl opens) (Or.inr trivial)
      (fun event member => not_or.mpr (within event member))
      (fun event member => not_or.mpr (sinceWithin event member))
    cases agree.2.1

/-! ## The invariant of a run -/

/-- Every decision that was returned is the first signal of the review it
answered. -/
def AnsweredByFirst (history : List WorkflowEvent) : Prop :=
  ∀ before signal after, history = before ++ .returned signal :: after →
    ∃ others, OpenReview before (signal :: others)

theorem AnsweredByFirst.snoc {history : List WorkflowEvent} {event : WorkflowEvent}
    (answered : AnsweredByFirst history)
    (last : ∀ signal, event = .returned signal →
      ∃ others, OpenReview history (signal :: others)) :
    AnsweredByFirst (history ++ [event]) := by
  intro before signal after equal
  rcases split_of_snoc equal with ⟨rfl, same, -⟩ | ⟨rest, -, earlier⟩
  · exact last signal same.symm
  · exact answered before signal rest earlier

/-- What holds between any two steps: the flag and the queue are those of the
review the history leaves open, and what remains keeps to rounds. -/
structure ReviewInvariant {α : Type} (history : List WorkflowEvent)
    (workflow : ResearchJobWorkflow α) : Prop where
  toCall : workflow.progress = .toCall →
    InRounds workflow.remaining (.ofFlag workflow.reviewIsOpen)
  activity : workflow.progress ≠ .toCall →
    ∀ call resume, workflow.remaining = .request call resume →
      ¬ call.AwaitsReview → ∀ answer,
        InRounds (resume answer) (.ofFlag workflow.reviewIsOpen)
  wait : workflow.progress ≠ .toCall →
    ∀ job critique resume,
      workflow.remaining = .request (.awaitReviewerDecision job critique) resume →
        workflow.reviewIsOpen = true ∧
          ∀ answer, InRounds (resume answer) .closed
  isOpen : workflow.reviewIsOpen = true →
    OpenReview history workflow.reviewerDecisions
  isClosed : workflow.reviewIsOpen = false →
    NoReview history ∧ workflow.reviewerDecisions = []
  answered : AnsweredByFirst history

section Steps

variable {α : Type} {history : List WorkflowEvent} {workflow : ResearchJobWorkflow α}

/-- A step that keeps flag and queue, and is neither an opening nor a return. -/
theorem ReviewInvariant.review_snoc
    (holds : ReviewInvariant history workflow) (event : WorkflowEvent)
    (opens : ¬ event.OpensReview) (returns : ¬ event.IsReturn) (noSignal : event.signal? = none) :
    (workflow.reviewIsOpen = true →
      OpenReview (history ++ [event]) workflow.reviewerDecisions) ∧
    (workflow.reviewIsOpen = false →
      NoReview (history ++ [event]) ∧ workflow.reviewerDecisions = []) ∧
    AnsweredByFirst (history ++ [event]) := by
  refine ⟨?_, ?_, ?_⟩
  · intro isOpen
    have grown := (holds.isOpen isOpen).snoc opens returns
    rwa [noSignal, Option.toList_none, List.append_nil] at grown
  · intro isClosed
    obtain ⟨noReview, queue⟩ := holds.isClosed isClosed
    exact ⟨noReview.snoc opens returns, queue⟩
  · apply holds.answered.snoc
    intro signal isReturn
    rw [isReturn] at returns
    exact absurd trivial returns

theorem ReviewInvariant.signal (holds : ReviewInvariant history workflow)
    (signal : ReviewSignal) :
    ReviewInvariant (history ++ [.signal signal])
      (workflow.submitReviewerDecision signal) := by
  have answered : AnsweredByFirst (history ++ [.signal signal]) :=
    holds.answered.snoc fun _ => nofun
  cases flag : workflow.reviewIsOpen with
  | false =>
      obtain ⟨noReview, queue⟩ := holds.isClosed flag
      have kept : workflow.submitReviewerDecision signal = workflow := by
        simp [ResearchJobWorkflow.submitReviewerDecision, flag]
      rw [kept]
      exact ⟨holds.toCall, holds.activity, holds.wait,
        fun isOpen => absurd isOpen (by simp [flag]),
        fun _ => ⟨noReview.snoc id id, queue⟩, answered⟩
  | true =>
      have queued : workflow.submitReviewerDecision signal =
          { workflow with
            reviewerDecisions := workflow.reviewerDecisions ++ [signal] } := by
        simp [ResearchJobWorkflow.submitReviewerDecision, flag]
      rw [queued]
      exact ⟨holds.toCall, holds.activity, holds.wait,
        fun _ => (holds.isOpen flag).snoc id id,
        fun isClosed => absurd isClosed (by simp [flag]), answered⟩

/-- A call that neither opens nor awaits a review leaves the mark. -/
theorem ReviewMark.observe_of_other {call : PipelineCall} {mark : ReviewMark}
    (opens : ¬ call.OpensReview) (awaits : ¬ call.AwaitsReview)
    (answer : Except PyException call.Answer) :
    mark.observe ⟨call, answer⟩ = mark := by
  cases call with
  | transition tenantId jobId target detail => exact if_neg opens
  | awaitReviewerDecision job critique => exact absurd trivial awaits
  | _ => rfl

/-- A review is only opened while none is open. -/
theorem InRounds.of_opening {call : PipelineCall}
    {resume : Except PyException call.Answer → Pipeline α} {isOpen : Bool}
    (inRounds : InRounds (.request call resume) (.ofFlag isOpen))
    (opens : call.OpensReview) :
    isOpen = false ∧ ¬ call.AwaitsReview ∧
      ∀ answer, InRounds (resume answer) .opened := by
  cases call with
  | transition tenantId jobId target detail =>
      have isTarget : target = .reviewRequired := opens
      cases isOpen with
      | true =>
          have broken (answer : Except PyException ResearchJob) :
              ReviewMark.observe (.ofFlag true)
                ⟨.transition tenantId jobId target detail, answer⟩ = .broken := by
            simp [ReviewMark.observe, ReviewMark.ofFlag, isTarget]
          let failure : PyException := { className := "", rendered := "" }
          exact absurd (broken (.error failure)) (inRounds.observe_ne_broken _)
      | false =>
          refine ⟨rfl, id, ?_⟩
          intro answer
          have rest := inRounds.rest answer
          have mark : ReviewMark.observe (.ofFlag false)
              ⟨.transition tenantId jobId target detail, answer⟩ = .opened := by
            simp [ReviewMark.observe, ReviewMark.ofFlag, isTarget]
          rwa [mark] at rest
  | _ => exact absurd opens id

/-- A decision is only awaited while a review is open. -/
theorem InRounds.of_awaiting {job : ResearchJob} {critique : CriticReview}
    {resume : Except PyException ReviewerDecision → Pipeline α} {isOpen : Bool}
    (inRounds : InRounds (.request (.awaitReviewerDecision job critique) resume)
      (.ofFlag isOpen)) :
    isOpen = true ∧ ∀ answer, InRounds (resume answer) .closed := by
  cases isOpen with
  | false =>
      let failure : PyException := { className := "", rendered := "" }
      exact absurd rfl (inRounds.observe_ne_broken (.error failure))
  | true => exact ⟨rfl, fun answer => inRounds answer trivial⟩

theorem ReviewInvariant.call {call : PipelineCall}
    {resume : Except PyException call.Answer → Pipeline α}
    (holds : ReviewInvariant history workflow)
    (next : workflow.remaining = .request call resume)
    (ready : workflow.progress = .toCall) :
    ReviewInvariant (history ++ [.called call]) (workflow.makeCall call) := by
  have inRounds := holds.toCall ready
  rw [next] at inRounds
  by_cases opens : call.OpensReview
  · obtain ⟨isClosed, awaits, rest⟩ := inRounds.of_opening opens
    obtain ⟨-, queue⟩ := holds.isClosed isClosed
    have opened : workflow.makeCall call =
        { workflow with progress := .called, reviewIsOpen := true } := by
      simp [ResearchJobWorkflow.makeCall, opens]
    rw [opened]
    constructor
    · exact nofun
    · intro _ other otherResume same _ answer
      rw [next] at same
      cases same
      exact rest answer
    · intro _ job critique otherResume same
      rw [next] at same
      cases same
      exact absurd trivial awaits
    · intro _
      refine ⟨history, call, [], rfl, opens, withinRound_nil, ?_⟩
      rw [queue]
      rfl
    · exact nofun
    · exact holds.answered.snoc fun _ => nofun
  · have kept : workflow.makeCall call = { workflow with progress := .called } := by
      simp [ResearchJobWorkflow.makeCall, opens]
    obtain ⟨isOpen, isClosed, answered⟩ :=
      holds.review_snoc (.called call) opens id rfl
    rw [kept]
    constructor
    · exact nofun
    · intro _ other otherResume same awaits answer
      rw [next] at same
      cases same
      have rest := inRounds.rest answer
      rwa [ReviewMark.observe_of_other opens awaits] at rest
    · intro _ job critique otherResume same
      rw [next] at same
      cases same
      exact inRounds.of_awaiting
    · exact isOpen
    · exact isClosed
    · exact answered

/-- Every step keeps the invariant. -/
theorem ReviewInvariant.step {event : WorkflowEvent} {after : ResearchJobWorkflow α}
    (holds : ReviewInvariant history workflow)
    (taken : WorkflowStep workflow event after) :
    ReviewInvariant (history ++ [event]) after := by
  cases taken with
  | signal signal => exact holds.signal signal
  | call next ready => exact holds.call next ready
  | @answer call resume next pending activity answer =>
      have underWay : workflow.progress ≠ .toCall := by simp [pending]
      obtain ⟨isOpen, isClosed, answered⟩ :=
        holds.review_snoc (.answered call) id id rfl
      exact ⟨fun _ => holds.activity underWay call resume next activity answer,
        fun moved => absurd rfl moved, fun moved => absurd rfl moved,
        isOpen, isClosed, answered⟩
  | notice next pending nonempty =>
      have underWay : workflow.progress ≠ .toCall := by simp [pending]
      obtain ⟨isOpen, isClosed, answered⟩ :=
        holds.review_snoc .noticed id id rfl
      exact ⟨nofun, fun _ => holds.activity underWay, fun _ => holds.wait underWay,
        isOpen, isClosed, answered⟩
  | @resume job critique resume first others next noticed queue =>
      have underWay : workflow.progress ≠ .toCall := by simp [noticed]
      obtain ⟨isOpen, rest⟩ := holds.wait underWay job critique resume next
      have answeredOne := holds.isOpen isOpen
      rw [queue] at answeredOne
      constructor
      · intro _
        exact rest (.ok first.decision)
      · exact fun moved => absurd rfl moved
      · exact fun moved => absurd rfl moved
      · exact nofun
      · intro _
        exact ⟨Or.inr ⟨history, first, [], rfl, withinRound_nil⟩, rfl⟩
      · apply holds.answered.snoc
        intro signal same
        cases same
        exact ⟨others, answeredOne⟩

end Steps

/-- The invariant holds in every run of a pipeline that keeps to rounds. -/
theorem WorkflowRun.reviewInvariant {α : Type} {pipeline : Pipeline α}
    {history : List WorkflowEvent} {workflow : ResearchJobWorkflow α}
    (inRounds : InRounds pipeline .closed) (run : WorkflowRun pipeline history workflow) :
    ReviewInvariant history workflow := by
  induction run with
  | start =>
      exact ⟨fun _ => inRounds, fun moved => absurd rfl moved,
        fun moved => absurd rfl moved, nofun, fun _ => ⟨Or.inl withinRound_nil, rfl⟩,
        fun before signal after equal => by simp at equal⟩
  | step run taken inductionHypothesis => exact inductionHypothesis.step taken

/-! ## The protocol -/

/-- What a history and the workflow it leads to satisfy.  Each returned decision
is the first signal of the review that was open; a signal that came while none
was open, or after the first of an open one, is never returned; and an open
review keeps all that arrived for it. -/
structure ReviewProtocol {α : Type} (history : List WorkflowEvent)
    (workflow : ResearchJobWorkflow α) : Prop where
  answered : AnsweredByFirst history
  unanswered : (signalsOf history).Nodup →
    ∀ before signal after, history = before ++ .signal signal :: after →
      (NoReview before ∨ ∃ first others, OpenReview before (first :: others)) →
        .returned signal ∉ history
  kept : ∀ arrived, OpenReview history arrived →
    workflow.reviewerDecisions = arrived

/-- When all signals of a history differ, one signal arrives at one place. -/
theorem arrival_unique {before after first last : List WorkflowEvent}
    {signal : ReviewSignal}
    (distinct : (signalsOf (first ++ .signal signal :: last)).Nodup)
    (equal : before ++ .signal signal :: after = first ++ .signal signal :: last) :
    before = first := by
  have parts : (signalsOf first ++ signal :: signalsOf last).Nodup := by
    simpa [signalsOf, WorkflowEvent.signal?] using distinct
  obtain ⟨-, lastDistinct, apart⟩ := List.nodup_append.mp parts
  have arrives {events : List WorkflowEvent} {event : WorkflowEvent}
      (member : event ∈ events) (same : event = .signal signal) :
      signal ∈ signalsOf events := by
    rw [same] at member
    exact List.mem_filterMap.mpr ⟨.signal signal, member, rfl⟩
  have noneFirst : ∀ event ∈ first, ¬ event = .signal signal := by
    intro event member same
    exact apart signal (arrives member same) signal List.mem_cons_self rfl
  have noneLast : ∀ event ∈ last, ¬ event = .signal signal := by
    intro event member same
    exact (List.nodup_cons.mp lastDistinct).1 (arrives member same)
  exact (split_at_only_marked (· = WorkflowEvent.signal signal) equal rfl noneFirst
    noneLast).1

/-- A signal that was returned arrived first in a round, and nowhere else. -/
theorem AnsweredByFirst.openReview_of_returned
    {history before after : List WorkflowEvent} {signal : ReviewSignal}
    (answered : AnsweredByFirst history) (distinct : (signalsOf history).Nodup)
    (arrival : history = before ++ .signal signal :: after)
    (isReturned : .returned signal ∈ history) : OpenReview before [] := by
  obtain ⟨untilReturn, since, returnSplit⟩ := List.append_of_mem isReturned
  obtain ⟨others, earlier, call, during, roundSplit, opens, within, arrived⟩ :=
    answered untilReturn signal since returnSplit
  obtain ⟨quiet, event, rest, rfl, noneQuiet, isSignal, -⟩ :=
    List.filterMap_eq_cons_iff.mp arrived
  have isArrival : event = .signal signal := by
    cases event with
    | signal other =>
        rw [WorkflowEvent.signal?, Option.some.injEq] at isSignal
        rw [isSignal]
    | _ => cases isSignal
  have inRound : history =
      (earlier ++ .called call :: quiet) ++
        .signal signal :: (rest ++ .returned signal :: since) := by
    rw [returnSplit, roundSplit, isArrival]
    simp
  have sameplace : before = earlier ++ .called call :: quiet := by
    rw [inRound] at distinct
    exact arrival_unique distinct (arrival.symm.trans inRound)
  have withinQuiet : WithinRound quiet := fun other member =>
    within other (List.mem_append_left _ member)
  exact ⟨earlier, call, quiet, sameplace, opens, withinQuiet,
    List.filterMap_eq_nil_iff.mpr noneQuiet⟩

/-- In every run of a pipeline that keeps to rounds, with any signals between any
of its steps, the review protocol is kept. -/
theorem reviewProtocol_of_run {α : Type} {pipeline : Pipeline α}
    {history : List WorkflowEvent} {workflow : ResearchJobWorkflow α}
    (inRounds : InRounds pipeline .closed) (run : WorkflowRun pipeline history workflow) :
    ReviewProtocol history workflow := by
  have holds := run.reviewInvariant inRounds
  constructor
  · exact holds.answered
  · intro distinct before signal after arrival unanswerable isReturned
    have awaited :=
      holds.answered.openReview_of_returned distinct arrival isReturned
    rcases unanswerable with noReview | ⟨first, others, laterInRound⟩
    · exact awaited.not_noReview noReview
    · cases awaited.unique laterInRound
  · intro arrived isOpen
    cases flag : workflow.reviewIsOpen with
    | true => exact (holds.isOpen flag).unique isOpen
    | false => exact absurd (holds.isClosed flag).1 isOpen.not_noReview

/-! ## A second click in one round -/

namespace SecondClick

def job : ResearchJob where
  id := 1
  tenantId := "acme"
  requesterId := "ana"
  question := exampleQuestion
  createdAt := 0
  updatedAt := 0

def critique : CriticReview where
  verdicts := [exampleContradiction 2]
  verdictsInRange := by decide
  gapsBounded := noTexts_bounded

def opening : PipelineCall := .transition "acme" 1 .reviewRequired none

def pipeline : Pipeline ReviewerDecision :=
  .request opening fun _ =>
    perform (PipelineCall.awaitReviewerDecision job critique)

def early : ReviewSignal := ⟨0, .approve⟩

def first : ReviewSignal := ⟨1, .reject⟩

def second : ReviewSignal := ⟨2, .approve⟩

/-- One decision comes before the review, one before the status is stored, and
one between the wait being over and its resumption. -/
def history : List WorkflowEvent :=
  [.signal early, .called opening, .signal first, .answered opening,
    .called (.awaitReviewerDecision job critique), .noticed, .signal second,
    .returned first]

theorem inRounds : InRounds pipeline .closed := by
  unfold InRounds
  intro _ _ _ _
  exact nofun

theorem run : WorkflowRun pipeline history { remaining := .finish (.ok .reject) } := by
  have before := WorkflowRun.start.step (.signal { remaining := pipeline } early)
  have opened := before.step (.call rfl rfl)
  have stored := (opened.step (.signal _ first)).step (.answer rfl rfl id (.ok job))
  have awaited := stored.step (.call rfl rfl)
  have seen := awaited.step (.notice rfl rfl (List.cons_ne_nil _ _))
  exact (seen.step (.signal _ second)).step (.resume rfl rfl rfl)

end SecondClick

/-- The protocol in a run where the second click of a round is not returned. -/
theorem reviewProtocol_of_run_at_secondClick :
    ReviewProtocol SecondClick.history
      ({ remaining := .finish (.ok .reject) } : ResearchJobWorkflow ReviewerDecision) :=
  reviewProtocol_of_run SecondClick.inRounds SecondClick.run

/-! ## The research pipeline keeps to rounds -/

namespace PipelineCall

/-- A call that neither opens nor awaits a review. -/
def IsUnrelated (call : PipelineCall) : Prop :=
  ¬ call.OpensReview ∧ ¬ call.AwaitsReview

end PipelineCall

open Pipeline PipelineCall

/-- Where a review may go on: closed after a value, and not broken after a fault. -/
def RoundSettled {α : Type} : Except PyException α → ReviewMark → Prop
  | .ok _, last => last = .closed
  | .error _, last => last ≠ .broken

/-- A pipeline without review calls keeps the mark. -/
theorem ensures_unrelated {α : Type} {pipeline : Pipeline α} {mark : ReviewMark}
    {post : Except PyException α → ReviewMark → Prop}
    (unrelated : Requests IsUnrelated pipeline) (next : ∀ outcome, post outcome mark) :
    Ensures ReviewMark.monitor pipeline mark post := by
  have kept : Ensures ReviewMark.monitor pipeline mark fun _ last => last = mark :=
    unrelated.ensures_kept fun call other answer =>
      ReviewMark.observe_of_other other.1 other.2 answer
  apply kept.mono
  intro outcome last same
  rw [same]
  exact next outcome

theorem roundSettled_closed {α : Type} (outcome : Except PyException α) :
    RoundSettled outcome .closed := by
  cases outcome with
  | ok value => rfl
  | error fault => exact nofun

section Unrelated

variable {job : ResearchJob}

theorem requests_transition {target : JobStatus} {detail : Option String}
    (other : target ≠ .reviewRequired) :
    Requests IsUnrelated (Pipeline.transition job target detail) :=
  requests_perform.mpr ⟨other, id⟩

theorem requests_recordFindings (analysis : AnalysisResult) (critique : CriticReview)
    (reviewerStatus : ReviewerStatus) :
    Requests IsUnrelated
      (Pipeline.recordFindings job analysis critique reviewerStatus) := by
  apply requests_bind
  · exact requests_finish
  · intro findings
    apply requests_bind
    · exact requests_perform.mpr ⟨id, id⟩
    · intro records
      exact requests_finish

theorem requests_storeRecords (commands : List EvidenceRecordCreate) :
    Requests IsUnrelated (storeRecords job commands) := by
  induction commands with
  | nil => exact requests_finish
  | cons command rest inductionHypothesis =>
      apply requests_bind
      · exact requests_perform.mpr ⟨id, id⟩
      · intro record
        exact requests_bind inductionHypothesis fun _ => requests_finish

theorem requests_storeResults
    (results : List (ResearchTask × Except PyException EvidenceSubmission)) :
    Requests IsUnrelated (storeResults job results) := by
  induction results with
  | nil => exact requests_finish
  | cons head rest inductionHypothesis =>
      obtain ⟨task, result⟩ := head
      cases result with
      | error failure =>
          exact requests_bind inductionHypothesis fun _ => requests_finish
      | ok submission =>
          apply requests_bind
          · exact requests_storeRecords submission.records
          · intro stored
            exact requests_bind inductionHypothesis fun _ => requests_finish

theorem requests_collectEvidence (tasks : List ResearchTask) :
    Requests IsUnrelated (collectEvidence job tasks) := by
  unfold collectEvidence
  split
  · exact requests_finish
  · apply requests_bind
    · exact requests_perform.mpr ⟨id, id⟩
    · intro results
      exact requests_storeResults _

theorem requests_finishReport (publishes : Bool) (critique : CriticReview)
    (evidence : List EvidenceRecord) (unmet : List NonEmptyText) :
    Requests IsUnrelated (finishReport publishes job critique evidence unmet) := by
  apply requests_bind (requests_transition (by decide))
  intro reporting
  apply requests_bind (requests_perform.mpr ⟨id, id⟩)
  intro report
  apply requests_bind requests_finish
  intro missing
  apply requests_bind
  · cases publishes with
    | false => exact requests_finish
    | true =>
        exact requests_bind (requests_perform.mpr ⟨id, id⟩) fun _ =>
          requests_finish
  · intro publication
    dsimp only
    split
    · exact requests_bind (requests_transition (by decide)) fun _ => requests_finish
    · exact requests_bind (requests_transition (by decide)) fun _ => requests_finish

theorem requests_endWith {target : JobStatus} {reason : String}
    (other : target ≠ .reviewRequired) :
    Requests IsUnrelated (endWith job target reason) :=
  requests_bind (requests_transition other) fun _ => requests_finish

theorem requests_fail (error : PyException) :
    Requests IsUnrelated (fail job error) := by
  have asFailed : Requests IsUnrelated
      ((endWith job .failed (describe error)).rescue fun _ => raise error) :=
    requests_rescue (requests_endWith (by decide)) fun _ => requests_finish
  simp only [fail]
  split
  · exact requests_rescue (requests_endWith (by decide)) fun _ => asFailed
  · exact asFailed

end Unrelated

/-- One round opens a review at most once, and then awaits its decision. -/
theorem ensures_reviewRound_settled (job : ResearchJob)
    (evidence : List EvidenceRecord) :
    Ensures ReviewMark.monitor (reviewRound job evidence) .closed RoundSettled := by
  have recorded {job : ResearchJob} {analysis : AnalysisResult}
      {critique : CriticReview} {status : ReviewerStatus} {round : Round} :
      Ensures ReviewMark.monitor
        ((Pipeline.recordFindings job analysis critique status).bind
          fun _ => pure round) .closed RoundSettled :=
    ensures_unrelated
      (requests_bind (requests_recordFindings analysis critique status)
        fun _ => requests_finish) roundSettled_closed
  apply ensures_bind.mpr
  apply ensures_unrelated (requests_transition (by decide))
  intro outcome
  rcases outcome with fault | analyzing
  · exact nofun
  apply ensures_bind.mpr
  apply ensures_unrelated (requests_perform.mpr ⟨id, id⟩)
  intro outcome
  rcases outcome with fault | analysis
  · exact nofun
  apply ensures_bind.mpr
  apply ensures_unrelated (requests_perform.mpr ⟨id, id⟩)
  intro outcome
  rcases outcome with fault | critique
  · exact nofun
  dsimp only
  split
  · exact recorded
  · apply ensures_bind.mpr
    apply ensures_unrelated (requests_recordFindings analysis critique .pending)
    intro outcome
    rcases outcome with fault | _
    · exact nofun
    apply ensures_bind.mpr
    intro answer _
    -- The review is open from here to the decision.
    rcases answer with fault | reviewing
    · exact nofun
    apply ensures_bind.mpr
    intro answer _
    rcases answer with fault | decision
    · exact nofun
    cases decision with
    | approve => exact recorded
    | reject =>
        have rejected : Ensures ReviewMark.monitor
            ((Pipeline.recordFindings reviewing analysis critique .rejected).bind fun _ =>
              (Pipeline.transition reviewing .failed
                (some "rejected by the reviewer")).bind fun job =>
                  pure (Round.ended { job := job, report := none, evidence := evidence }))
            .closed RoundSettled := by
          apply ensures_unrelated ?_ roundSettled_closed
          apply requests_bind (requests_recordFindings analysis critique .rejected)
          intro _
          exact requests_bind (requests_transition (by decide)) fun _ => requests_finish
        exact rejected
    | requestMoreResearch =>
        have researching : Ensures ReviewMark.monitor
            ((Pipeline.transition reviewing .researching none).bind fun job =>
              pure (Round.moreResearch job))
            .closed RoundSettled := by
          apply ensures_unrelated ?_ roundSettled_closed
          exact requests_bind (requests_transition (by decide)) fun _ => requests_finish
        exact researching

theorem ensures_reviewLoop_settled (tasks : List ResearchTask) (remaining : Nat)
    (job : ResearchJob) (evidence : List EvidenceRecord) (unmet : List NonEmptyText) :
    Ensures ReviewMark.monitor (reviewLoop tasks remaining job evidence unmet) .closed
      RoundSettled := by
  induction remaining generalizing job evidence unmet with
  | zero =>
      unfold reviewLoop
      apply ensures_bind.mpr
      apply (ensures_reviewRound_settled job evidence).mono
      intro outcome mark settled
      rcases outcome with fault | round
      · exact settled
      obtain rfl : mark = .closed := settled
      cases round with
      | settled job critique => rfl
      | ended outcome => rfl
      | moreResearch job =>
          apply ensures_unrelated ?_ roundSettled_closed
          exact requests_bind (requests_transition (by decide)) fun _ => requests_finish
  | succ remaining inductionHypothesis =>
      unfold reviewLoop
      apply ensures_bind.mpr
      apply (ensures_reviewRound_settled job evidence).mono
      intro outcome mark settled
      rcases outcome with fault | round
      · exact settled
      obtain rfl : mark = .closed := settled
      cases round with
      | settled job critique => rfl
      | ended outcome => rfl
      | moreResearch job =>
          apply ensures_bind.mpr
          apply ensures_unrelated (requests_collectEvidence tasks)
          intro outcome
          rcases outcome with fault | collected
          · exact nofun
          · exact inductionHypothesis job _ _

theorem ensures_runSteps_settled (publishes : Bool) (stamps : Nat → UUID × Timestamp)
    (job : ResearchJob) :
    Ensures ReviewMark.monitor (runSteps publishes stamps job) .closed
      RoundSettled := by
  apply ensures_bind.mpr
  apply ensures_unrelated (requests_transition (by decide))
  intro outcome
  rcases outcome with fault | planning
  · exact nofun
  apply ensures_bind.mpr
  apply ensures_unrelated (requests_perform.mpr ⟨id, id⟩)
  intro outcome
  rcases outcome with fault | plan
  · exact nofun
  apply ensures_bind.mpr
  apply ensures_unrelated (requests_transition (by decide))
  intro outcome
  rcases outcome with fault | researching
  · exact nofun
  apply ensures_bind.mpr
  apply ensures_unrelated (requests_collectEvidence _)
  intro outcome
  rcases outcome with fault | collected
  · exact nofun
  obtain ⟨evidence, unmet⟩ := collected
  dsimp only
  split
  · apply ensures_unrelated ?_ roundSettled_closed
    exact requests_bind (requests_transition (by decide)) fun _ => requests_finish
  · apply ensures_bind.mpr
    apply (ensures_reviewLoop_settled _ _ _ _ _).mono
    intro outcome mark settled
    rcases outcome with fault | reviewed
    · exact settled
    obtain rfl : mark = .closed := settled
    cases reviewed with
    | ended outcome => rfl
    | settled job critique evidence unmet =>
        exact ensures_unrelated (requests_finishReport publishes critique evidence unmet)
          roundSettled_closed

/-- The research pipeline keeps to rounds, whatever its calls answer. -/
theorem inRounds_runResearchJob (publishes : Bool) (stamps : Nat → UUID × Timestamp)
    (job : ResearchJob) : InRounds (runResearchJob publishes stamps job) .closed := by
  apply ensures_rescue.mpr
  apply (ensures_runSteps_settled publishes stamps job).mono
  intro outcome mark settled
  rcases outcome with fault | finished
  · exact ensures_unrelated (requests_fail fault) fun _ => settled
  · rw [show mark = .closed from settled]
    exact nofun

end ResearchPlatform
