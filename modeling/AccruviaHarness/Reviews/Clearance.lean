import AccruviaHarness.Reviews.PromotionReview
import AccruviaHarness.Reviews.ReviewPacket

/-!
# When a clear review has passed

The typed model of a review calls a round clear when it has packets and all of
them pass.
-/

namespace AccruviaHarness

open Library List

structure ReviewRound where
  reviewId : String
  objectiveId : String
  packets : List ReviewPacket

namespace ReviewRound

def reviewClear (round : ReviewRound) : Bool :=
  !round.packets.isEmpty && round.packets.all fun packet => packet.verdict = .pass

end ReviewRound

namespace ReviewPacketRepository

open PromotionReviewBuilder

def loadPacketsForReview (store : Store) (objectiveId reviewId : String) :
    Except PyError (List ReviewPacket) :=
  (ofReview (objectiveRecords store objectiveId) "objective_review_packet"
    reviewId).mapM fun record =>
      (ReviewPacket.fromDict record.metadata).map fun packet =>
        { packet with packetRecordId := record.id }

def loadRound (store : Store) (objectiveId reviewId : String) : Except PyError ReviewRound :=
  (loadPacketsForReview store objectiveId reviewId).map fun packets =>
    { reviewId, objectiveId, packets }

end ReviewPacketRepository

namespace Clearance

open PromotionReviewBuilder ReviewPacketRepository

/-- The round has come to its end without a failure, it has packets, and all
of them pass, in the builder's rows and in the typed model. -/
structure Passed (store : Store) (objectiveId : String) (round : RoundRow) :
    Prop where
  completed : round.completedAt ≠ none
  notFailed : round.failedAt = none
  nonempty : round.packets ≠ []
  allPass : ∀ packet ∈ round.packets,
    packet.verdict = ReviewVerdict.pass.value
  typed : ∀ typedRound, loadRound store objectiveId round.reviewId = .ok typedRound →
      typedRound.reviewClear = true

def ClearOnlyWhenPassed (store : Store) (objectiveId : String) (review : PromotionReview) : Prop :=
  review.reviewClear = true → ∀ round, review.reviewRounds.head? = some round →
      round.operatorOverride = none → Passed store objectiveId round

def IsNegative (verdict : String) : Prop :=
  pyStrip verdict = ReviewVerdict.concern.value ∨
    pyStrip verdict = ReviewVerdict.remediationRequired.value

structure PassedRecords (records : List ContextRecord) (reviewId : String) :
    Prop where
  completed : ofReview records "objective_review_completed" reviewId ≠ []
  notFailed : ofReview records "objective_review_failed" reviewId = []
  nonempty : ofReview records "objective_review_packet" reviewId ≠ []
  allPass : ∀ record ∈ ofReview records "objective_review_packet" reviewId,
    record.metadata.getStr "verdict" = ReviewVerdict.pass.value

/-- The objective is not ready, or the records of the review that was started
last have an override, a negative verdict, or a round that has passed. -/
def JustifiedRecords (records : List ContextRecord) (linkedTasks : List Task) : Prop :=
  isReady records linkedTasks = true → ∀ start, (startOrder records).getLast? = some start →
      ofReview records "objective_review_override_approved" (startedReviewId start) = [] →
        (∀ record ∈ ofReview records "objective_review_packet" (startedReviewId start),
          ¬ IsNegative (record.metadata.getStr "verdict")) →
          PassedRecords records (startedReviewId start)

variable {reviewId : String} {records : List ContextRecord}
  {linkedTasks : List Task}

theorem packetRow_verdict {record : ContextRecord} {packet : PacketRow}
    (built : packetRow reviewId record = .ok packet) :
    packet.verdict = record.metadata.getStr "verdict" := by
  unfold packetRow at built
  dsimp only at built
  cases findings : record.metadata.getList "findings" with
  | error _ =>
    rw [findings] at built
    cases built
  | ok _ =>
    rw [findings] at built
    cases evidence : record.metadata.getList "evidence" with
    | error _ =>
      rw [evidence] at built
      cases built
    | ok _ =>
      rw [evidence] at built
      cases built
      rfl

theorem mapM_overrideRow {record : Option ContextRecord} {override : Option OverrideRow}
    (built : record.mapM overrideRow = .ok override) :
    override = none ↔ record = none := by
  cases record with
  | none =>
    cases built
    exact iff_of_true rfl rfl
  | some record =>
    rw [Option.mapM_some] at built
    cases row : overrideRow record with
    | error _ =>
      rw [row] at built
      cases built
    | ok _ =>
      rw [row] at built
      cases built
      exact iff_of_false nofun nofun

theorem packetRows_verdicts {packets : List PacketRow}
    (built : records.mapM (packetRow reviewId) = .ok packets) :
    packets.map PacketRow.verdict = records.map fun record => record.metadata.getStr "verdict" := by
  have rows := forall₂_of_mapM_ok built
  clear built
  induction rows with
  | nil => rfl
  | cons here _ ih => rw [map_cons, map_cons, packetRow_verdict here, ih]

structure RowOf (records : List ContextRecord) (start : ContextRecord)
    (roundNumber : Nat) (round : RoundRow) : Prop where
  reviewId : round.reviewId = startedReviewId start
  roundNumber : round.roundNumber = roundNumber
  completed : round.completedAt = none ↔
    ofReview records "objective_review_completed" round.reviewId = []
  failed : round.failedAt = none ↔ ofReview records "objective_review_failed" round.reviewId = []
  override : round.operatorOverride = none ↔
    ofReview records "objective_review_override_approved" round.reviewId = []
  verdicts : (round.packets.map PacketRow.verdict).Perm
    ((ofReview records "objective_review_packet" round.reviewId).map
      fun record => record.metadata.getStr "verdict")

variable {start : ContextRecord} {round : RoundRow} {rounds : List RoundRow}
  {store : Store} {objectiveId : String}

theorem roundRow_rowOf {roundNumber : Nat}
    (built : roundRow records linkedTasks start roundNumber = .ok round) :
    RowOf records start roundNumber round := by
  unfold roundRow at built
  dsimp only at built
  cases packets : (ofReview records "objective_review_packet"
      (startedReviewId start)).mapM (packetRow (startedReviewId start)) with
  | error _ =>
    rw [packets] at built
    cases built
  | ok rows =>
    rw [packets] at built
    cases override : (ofReview records "objective_review_override_approved"
        (startedReviewId start)).getLast?.mapM overrideRow with
    | error _ =>
      rw [override] at built
      cases built
    | ok _ =>
      rw [override] at built
      cases built
      have overrides := mapM_overrideRow override
      rw [getLast?_eq_none_iff] at overrides
      refine ⟨rfl, rfl, ?_, ?_, overrides, ?_⟩
      · simp
      · simp
      · have sorted := (perm_insertionSort NewestPacket rows).map PacketRow.verdict
        rw [packetRows_verdicts packets] at sorted
        exact sorted

theorem latestRound_rowOf (built : roundRows records linkedTasks = .ok rounds)
    (latest : (orderBy LatestRound rounds).head? = some round) :
    ∃ start roundNumber, (startOrder records).getLast? = some start ∧
      RowOf records start roundNumber round := by
  obtain ⟨rowsOf, itemsOf⟩ := mem_of_mapM_ok built
  obtain ⟨member, first⟩ := head?_orderBy_first LatestRound latest
  obtain ⟨⟨start, roundNumber⟩, listed, row⟩ := rowsOf round member
  have rowOf := roundRow_rowOf row
  refine ⟨start, roundNumber, ?_, rowOf⟩
  obtain ⟨_, placed⟩ := mk_mem_zipIdx_iff_le_and_getElem?_sub.mp listed
  have within : roundNumber - 1 < (startOrder records).length :=
    (List.getElem?_eq_some_iff.mp placed).1
  -- The row of the last start has the greatest number.
  have last : ((startOrder records).getLast
      (List.ne_nil_of_length_pos (by omega)), (startOrder records).length) ∈
        (startOrder records).zipIdx 1 := by
    rw [mk_mem_zipIdx_iff_le_and_getElem?_sub]
    refine ⟨by omega, ?_⟩
    rw [← getLast?_eq_getElem?]
    exact getLast?_eq_some_getLast _
  obtain ⟨lastRound, lastMember, lastRow⟩ := itemsOf _ last
  have greatest := first lastRound lastMember
  unfold LatestRound at greatest
  rw [(roundRow_rowOf lastRow).roundNumber, rowOf.roundNumber] at greatest
  have position : roundNumber - 1 = (startOrder records).length - 1 := by omega
  rw [getLast?_eq_getElem?, ← position]
  exact placed

theorem exists_latestRound (built : roundRows records linkedTasks = .ok rounds)
    (last : (startOrder records).getLast? = some start) :
    ∃ round, (orderBy LatestRound rounds).head? = some round := by
  obtain ⟨_, itemsOf⟩ := mem_of_mapM_ok built
  have member := mem_of_getLast? last
  obtain ⟨position, placed⟩ := mem_iff_getElem?.mp member
  have listed : (start, position + 1) ∈ (startOrder records).zipIdx 1 := by
    rw [mk_mem_zipIdx_iff_le_and_getElem?_sub]
    exact ⟨by omega, placed⟩
  obtain ⟨_, rowMember, _⟩ := itemsOf _ listed
  cases head : (orderBy LatestRound rounds).head? with
  | some round => exact ⟨round, rfl⟩
  | none =>
    rw [head?_eq_none_iff, orderBy_eq_nil_iff] at head
    rw [head] at rowMember
    cases rowMember

theorem reviewClear_of_passedRecords {round : ReviewRound}
    (passed : PassedRecords (objectiveRecords store objectiveId) reviewId)
    (loaded : loadRound store objectiveId reviewId = .ok round) :
    round.reviewClear = true := by
  unfold loadRound at loaded
  cases rows : loadPacketsForReview store objectiveId reviewId with
  | error _ =>
    rw [rows] at loaded
    cases loaded
  | ok _ =>
    rw [rows] at loaded
    cases loaded
    obtain ⟨packetOf, recordOf⟩ := mem_of_mapM_ok rows
    obtain ⟨first, firstMember⟩ := exists_mem_of_ne_nil _ passed.nonempty
    obtain ⟨packet, packetMember, _⟩ := recordOf first firstMember
    unfold ReviewRound.reviewClear
    rw [Bool.and_eq_true]
    constructor
    · simpa using ne_nil_of_mem packetMember
    · rw [all_eq_true]
      intro packet member
      obtain ⟨record, recordMember, parsed⟩ := packetOf packet member
      cases entry : ReviewPacket.fromDict record.metadata with
      | error _ =>
        rw [entry] at parsed
        cases parsed
      | ok _ =>
        rw [entry] at parsed
        cases parsed
        have verdict := ReviewPacket.verdict_of_fromDict entry
        rw [ReviewPacket.parseVerdict_of_pass (passed.allPass record recordMember)] at verdict
        exact decide_eq_true verdict

section

variable {store : Store} {objectiveId : String} {start : ContextRecord}
  {roundNumber : Nat} {round : RoundRow}
  (rowOf : RowOf (objectiveRecords store objectiveId) start roundNumber round)

include rowOf

theorem mem_verdicts_iff {verdict : String} :
    (∃ packet ∈ round.packets, packet.verdict = verdict) ↔
      ∃ record ∈ ofReview (objectiveRecords store objectiveId)
        "objective_review_packet" round.reviewId, record.metadata.getStr "verdict" = verdict := by
  have same := rowOf.verdicts.mem_iff (a := verdict)
  rw [mem_map, mem_map] at same
  exact same

theorem passed_iff :
    Passed store objectiveId round ↔
      PassedRecords (objectiveRecords store objectiveId) round.reviewId := by
  have verdicts := fun verdict : String => @mem_verdicts_iff store objectiveId
    start roundNumber round rowOf verdict
  have nonempty : round.packets = [] ↔ ofReview
      (objectiveRecords store objectiveId) "objective_review_packet"
        round.reviewId = [] := by
    have sameLength := rowOf.verdicts.length_eq
    rw [length_map, length_map] at sameLength
    rw [← length_eq_zero_iff, ← length_eq_zero_iff, sameLength]
  constructor
  · intro passed
    refine ⟨mt rowOf.completed.mpr passed.completed,
      rowOf.failed.mp passed.notFailed, mt nonempty.mpr passed.nonempty, ?_⟩
    intro record member
    obtain ⟨packet, packetMember, same⟩ := (verdicts _).mpr ⟨record, member, rfl⟩
    rw [← same]
    exact passed.allPass packet packetMember
  · intro passed
    refine ⟨mt rowOf.completed.mp passed.completed,
      rowOf.failed.mpr passed.notFailed, mt nonempty.mp passed.nonempty, ?_,
      fun _ loaded => reviewClear_of_passedRecords passed loaded⟩
    intro packet member
    obtain ⟨record, recordMember, same⟩ := (verdicts _).mp ⟨packet, member, rfl⟩
    rw [← same]
    exact passed.allPass record recordMember

theorem negativeCounts_eq_zero_iff :
    (latestVerdictCounts (some round)).concern = 0 ∧
        (latestVerdictCounts (some round)).remediationRequired = 0 ↔
      ∀ record ∈ ofReview (objectiveRecords store objectiveId)
        "objective_review_packet" round.reviewId,
          ¬ IsNegative (record.metadata.getStr "verdict") := by
  have verdicts := fun verdict : String => @mem_verdicts_iff store objectiveId
    start roundNumber round rowOf verdict
  simp only [latestVerdictCounts, VerdictCounts.of, count_eq_zero,
    mem_map, Option.elim_some, IsNegative]
  constructor
  · rintro ⟨noConcern, noRemediation⟩ record member negative
    obtain ⟨packet, packetMember, same⟩ := (verdicts _).mpr ⟨record, member, rfl⟩
    rw [← same] at negative
    rcases negative with concern | remediation
    · exact noConcern ⟨packet, packetMember, concern⟩
    · exact noRemediation ⟨packet, packetMember, remediation⟩
  · intro noNegative
    constructor
    · rintro ⟨packet, member, concern⟩
      obtain ⟨record, recordMember, same⟩ := (verdicts _).mp ⟨packet, member, rfl⟩
      apply noNegative record recordMember
      rw [same]
      exact .inl concern
    · rintro ⟨packet, member, remediation⟩
      obtain ⟨record, recordMember, same⟩ := (verdicts _).mp ⟨packet, member, rfl⟩
      apply noNegative record recordMember
      rw [same]
      exact .inr remediation

end

theorem build_eq_ok {review : PromotionReview}
    (built : build store objectiveId linkedTasks = .ok review) :
    ∃ rounds, roundRows (objectiveRecords store objectiveId) linkedTasks = .ok rounds ∧
        review = reviewOfRounds (objectiveRecords store objectiveId) linkedTasks rounds := by
  unfold build at built
  cases rows : roundRows (objectiveRecords store objectiveId) linkedTasks with
  | error _ =>
    simp only [rows] at built
    cases built
  | ok rounds =>
    simp only [rows] at built
    cases built
    exact ⟨rounds, rfl, rfl⟩

/-- A review that `build` reports as clear has passed its latest round exactly
when the records of that round show it. -/
theorem clear_review_passed_iff (store : Store) (objectiveId : String) (linkedTasks : List Task)
    (review : PromotionReview)
    (built : build store objectiveId linkedTasks = .ok review) :
    ClearOnlyWhenPassed store objectiveId review ↔
      JustifiedRecords (objectiveRecords store objectiveId) linkedTasks := by
  obtain ⟨rounds, rows, rfl⟩ := build_eq_ok built
  unfold ClearOnlyWhenPassed JustifiedRecords
  constructor
  · intro passes ready start last noOverride noNegative
    obtain ⟨round, latest⟩ := exists_latestRound rows last
    obtain ⟨_, roundNumber, lastOther, rowOf⟩ := latestRound_rowOf rows latest
    rw [last] at lastOther
    cases lastOther
    rw [← rowOf.reviewId] at noOverride noNegative ⊢
    apply (passed_iff rowOf).mp
    refine passes ?_ round latest (rowOf.override.mpr noOverride)
    obtain ⟨noConcern, noRemediation⟩ := (negativeCounts_eq_zero_iff rowOf).mpr noNegative
    simp [reviewOfRounds, ready, latest, noConcern, noRemediation]
  · intro justified clear round latest noOverride
    obtain ⟨start, _, last, rowOf⟩ := latestRound_rowOf rows latest
    apply (passed_iff rowOf).mpr
    have sameRounds : (orderBy LatestRound rounds).head? = some round := latest
    simp only [reviewOfRounds, sameRounds, Option.bind_some, noOverride,
      Option.isSome_none, Option.isSome_some, Bool.false_or, Bool.and_true,
      Bool.and_eq_true, decide_eq_true_eq] at clear
    rw [rowOf.reviewId]
    apply justified clear.1 start last
    · rw [← rowOf.reviewId]
      exact rowOf.override.mp noOverride
    · rw [← rowOf.reviewId]
      exact (negativeCounts_eq_zero_iff rowOf).mp clear.2

def runningReviewStore : Store where
  contextRecords :=
    [{ id := "record", recordType := "objective_review_started", objectiveId := some "objective"
       metadata := [("review_id", .str "review")] }]

theorem clear_review_passed_iff_while_running :
    ∃ review, build runningReviewStore "objective" [] = .ok review ∧
        (ClearOnlyWhenPassed runningReviewStore "objective" review ↔
          JustifiedRecords (objectiveRecords runningReviewStore "objective") []) :=
  ⟨_, rfl, clear_review_passed_iff runningReviewStore "objective" [] _ rfl⟩

/-- The review is reported as clear while its only round is running without a
packet. -/
theorem running_review_clear :
    ∃ review, build runningReviewStore "objective" [] = .ok review ∧
        ¬ ClearOnlyWhenPassed runningReviewStore "objective" review := by
  refine ⟨_, rfl, ?_⟩
  intro passes
  exact (passes (by decide) _ rfl rfl).nonempty rfl

end Clearance

end AccruviaHarness
