/-
  Lineup.Proofs.Command.Agreement
  ───────────────────────────────
  **A DOCUMENT THAT IS CHECKED IS A DOCUMENT THAT IS LOADED.**  Checking takes the sessions
  of a document into an empty registry and stops there.  Loading takes them into a shadow
  that is set up like the live registry, compares it, and makes the successor, which takes
  all channels in a second time.

  Both take in the same sessions with the same outcome (`checkFrom_eq`): a registry without
  channels is its own shadow (`emptyLike_empty`).  And where no session fails, neither of the
  later steps refuses anything: no live channel can be newer, and channels that stood beside
  each other in the shadow stand beside each other in the successor (`exists_run_empty_iff`).

  Main result:
    * `check_agrees` — checking succeeds exactly if loading does, and otherwise it prints what
      loading reports.
-/
import Lineup.Command.Run
import Lineup.Proofs.Update.Order
import Lineup.Proofs.Update.Reload

namespace Lineup

/-! ## §1. Shadows of an empty registry. -/

theorem AddressMap.empty_bucketCount (n : Nat) : empty (empty n).bucketCount = empty n := by
  have hcount : (empty n).bucketCount = max n 1 := Array.size_replicate
  rw [hcount]
  unfold empty
  simp only [Nat.max_assoc, Nat.max_self]

/-- **A registry without channels is its own shadow**, also if it was set up with fewer chains
than there have to be. -/
theorem Registry.emptyLike_empty (config : RegistryConfig) :
    (empty config).emptyLike = empty config := by
  show ({ empty config with
    primaryMap := .empty (AddressMap.empty config.mapBuckets).bucketCount
    feedbackMap := .empty (AddressMap.empty config.mapBuckets).bucketCount } : Registry) = _
  rw [AddressMap.empty_bucketCount]
  rfl

namespace Coordinator

open Registry

variable {config : RegistryConfig} {document : String}

/-- **An empty registry takes every document whose sessions all become channels.** -/
theorem exists_run_empty_iff
    (hroom : min config.maxChannels (Document.sessions document).length ≤ UInt32.size)
    (now : Instant) :
    (∃ next report, run (.empty config) document now = .ok (next, report)) ↔
      (takeIn 0 (.empty config) (Document.sessions document)).2 = [] := by
  have hself := Registry.emptyLike_empty config
  constructor
  · rintro ⟨next, report, hrun⟩
    rw [← hself]
    exact (run_eq_ok_iff.1 hrun).1
  · intro hclean
    rw [← hself] at hclean
    have hroom' : min (Registry.empty config).maxChannels (Document.sessions document).length
        ≤ UInt32.size := hroom
    obtain ⟨es, hes, happ⟩ := staged_of_clean hroom' hclean
    have hrecords := records_of_appended happ
    have hsize := happ.indexed.size_le
    rw [← happ.indexed.length_records, hrecords, happ.maxChannels] at hsize
    refine (exists_run_iff (linked_empty config) hroom' now).2
      ⟨es, hes, hrecords ▸ happ.indexed.fits, hsize, fun c _ => ?_⟩
    -- there is no live channel that could be newer
    rw [forward_changeOf_iff (linked_empty config).toFindable]
    intro d hd
    cases hd

/-- **It refuses every other document**, with all failures. -/
theorem run_empty_of_failed
    (hfailed : (takeIn 0 (.empty config) (Document.sessions document)).2 ≠ []) (now : Instant) :
    run (.empty config) document now = .error (.rejected (.ofStaging
      (takeIn 0 (.empty config) (Document.sessions document)).1.counters
      (takeIn 0 (.empty config) (Document.sessions document)).2)) := by
  rw [run_eq, Registry.emptyLike_empty]
  dsimp only
  rw [if_neg hfailed]

end Coordinator

/-! ## §2. What is checked. -/

namespace Command

open Coordinator Text

namespace CheckedSession

/-- The failure of a session that is no channel. -/
def failure? (s : CheckedSession) : Option SessionFailure :=
  match s.result with
  | .ok _ => none
  | .error e => some ⟨s.index, e⟩

/-- A failure, in one line. -/
def failureLine (f : SessionFailure) : String :=
  "FAIL session " ++ decimal f.index ++ ": " ++ f.reason.message ++ "\n"

theorem isChannel_iff {s : CheckedSession} : s.isChannel = true ↔ s.failure? = none := by
  unfold isChannel failure?
  cases s.result with
  | ok c => exact iff_of_true rfl rfl
  | error e => exact iff_of_false (by simp [Except.isOk, Except.toBool]) (by simp)

theorem text_of_failure? {s : CheckedSession} {f : SessionFailure} (hf : s.failure? = some f) :
    s.text = failureLine f := by
  obtain ⟨index, result⟩ := s
  cases result with
  | ok c => cases hf
  | error e =>
    obtain rfl := Option.some.inj hf
    rfl

/-- The lines about failures are those about the sessions that are no channels. -/
theorem map_text_filter (ss : List CheckedSession) :
    (ss.filter (!·.isChannel)).map (·.text) = (ss.filterMap failure?).map failureLine := by
  induction ss with
  | nil => rfl
  | cons s ss ih =>
    cases hf : s.failure? with
    | none =>
      have hchannel := isChannel_iff.2 hf
      rw [List.filterMap_cons_none hf, List.filter_cons_of_neg (by simp [hchannel]), ih]
    | some f =>
      have hchannel : s.isChannel = false :=
        Bool.eq_false_iff.2 fun h => by rw [isChannel_iff.1 h] at hf; cases hf
      rw [List.filterMap_cons_some hf, List.filter_cons_of_pos (by simp [hchannel]), List.map_cons,
        List.map_cons, text_of_failure? hf, ih]

end CheckedSession

/-- **Checking takes in what an update stages**, and finds the same failures. -/
theorem checkFrom_eq (i : Nat) (r : Registry) (texts : List String) :
    (checkFrom i r texts).2 = (takeIn i r texts).1 ∧
      (checkFrom i r texts).1.filterMap (·.failure?) = (takeIn i r texts).2 := by
  induction texts generalizing i r with
  | nil => exact ⟨rfl, rfl⟩
  | cons text texts ih =>
    unfold checkFrom
    rcases hadd : r.addText text with ⟨e | h, r'⟩
    · obtain ⟨hlast, hfailures⟩ := ih (i + 1) r'
      rw [takeIn_cons_of_error hadd, ← hlast, ← hfailures]
      exact ⟨rfl, rfl⟩
    · obtain ⟨hlast, hfailures⟩ := ih (i + 1) r'
      rw [takeIn_cons_of_ok hadd, ← hlast, ← hfailures]
      refine ⟨rfl, ?_⟩
      dsimp only
      rw [List.filterMap_append]
      cases r'.getAny h with
      | none => rfl
      | some c => rfl

theorem success_check (config : RegistryConfig) (document : String) :
    (check config document).success
      = ((checkDocument config document).1.map (·.isChannel)).all id := by
  rw [List.all_map]
  rfl

/-- A document passes exactly if none of its sessions fails. -/
theorem success_check_iff {config : RegistryConfig} {document : String} :
    (check config document).success = true ↔
      (takeIn 0 (.empty config) (Document.sessions document)).2 = [] := by
  rw [← (checkFrom_eq 0 (.empty config) (Document.sessions document)).2, List.filterMap_eq_nil_iff]
  show (checkDocument config document).1.all (·.isChannel) = true ↔ _
  rw [List.all_eq_true]
  exact forall₂_congr fun s _ => CheckedSession.isChannel_iff

/-! ## §3. What is loaded. -/

section Loading

variable {s : Surroundings} {config : RegistryConfig} {file document : String}

theorem load_of_ok (hread : s.read file = .ok document) {now : Instant} {next : Registry}
    {report : UpdateReport} (hrun : Coordinator.run (.empty config) document now = .ok (next, report)) :
    ∃ m, (Manager.empty config).load file (s.read file) now = (.ok report, m) := by
  unfold Manager.load
  rw [hread]
  dsimp only
  rw [Manager.apply_of_ok (m := .empty config) hrun]
  exact ⟨_, rfl⟩

theorem load_of_error (hread : s.read file = .ok document) {now : Instant} {e : UpdateError}
    (hrun : Coordinator.run (.empty config) document now = .error e) :
    ∃ m, (Manager.empty config).load file (s.read file) now = (.error (.update e), m) := by
  unfold Manager.load
  rw [hread]
  dsimp only
  rw [Manager.apply_of_error (m := .empty config) hrun]
  exact ⟨_, rfl⟩

/-- **A file is loaded exactly if its document is committed.** -/
theorem exists_loadManager_iff (hread : s.read file = .ok document) :
    (∃ m, loadManager s config file = .ok m) ↔
      ∃ next report, Coordinator.run (.empty config) document someTime = .ok (next, report) := by
  unfold loadManager
  cases hrun : Coordinator.run (.empty config) document someTime with
  | ok x =>
    obtain ⟨m, hload⟩ := load_of_ok hread hrun
    rw [hload]
    exact iff_of_true ⟨m, rfl⟩ ⟨_, _, rfl⟩
  | error e =>
    obtain ⟨m, hload⟩ := load_of_error hread hrun
    rw [hload]
    refine iff_of_false ?_ ?_
    · rintro ⟨m, hm⟩
      cases hm
    · rintro ⟨next, report, hok⟩
      cases hok

/-- A report that says what was printed: of sessions that were checked, and of the registry that
they were taken into. -/
structure Reports (report : UpdateReport) (checked : List CheckedSession × Registry) : Prop where
  /-- It lists the sessions that are no channels. -/
  failures : report.failures = checked.1.filterMap (·.failure?)
  /-- Each of them was printed with its position and the reason. -/
  lines : report.failures.map CheckedSession.failureLine
    = (checked.1.filter (!·.isChannel)).map (·.text)
  /-- Everything was counted alike. -/
  seen : report.sessions = checked.2.counters.seen
  parsed : report.parsed = checked.2.counters.parsed
  syntaxErrors : report.syntaxErrors = checked.2.counters.syntaxErrors
  validated : report.validated = checked.2.counters.validated
  validationErrors : report.validationErrors = checked.2.counters.validationErrors

theorem reports_checkDocument (config : RegistryConfig) (document : String) :
    Reports (.ofStaging (takeIn 0 (.empty config) (Document.sessions document)).1.counters
      (takeIn 0 (.empty config) (Document.sessions document)).2) (checkDocument config document) := by
  obtain ⟨hlast, hfailures⟩ := checkFrom_eq 0 (.empty config) (Document.sessions document)
  rw [← hlast, ← hfailures]
  unfold checkDocument
  generalize checkFrom 0 (.empty config) (Document.sessions document) = checked
  exact ⟨rfl, (CheckedSession.map_text_filter checked.1).symm, rfl, rfl, rfl, rfl, rfl⟩

theorem readFile_of_read (hread : s.read file = .ok document) : readFile s file = .ok document := by
  unfold readFile
  rw [hread]

theorem status_eq_zero_iff {o : Outcome} : o.status = 0 ↔ o.success = true := by
  unfold Outcome.status
  cases o.success <;> simp

/-- **CHECKING A DOCUMENT AND LOADING IT AGREE**, with any settings: a file passes exactly if it
can be loaded. If it does not pass, loading is rejected with a report of the very failures that
are printed, position by position and with the same wording, and the lines that follow them
print the counts of that report.

A handle numbers its place with 32 bits. In a shadow of more than 2³² channels two of them get
one handle; one of the two would be taken into the successor twice, and loading would fail for
it. So no more are taken in where loading is to succeed. -/
theorem check_agrees (hread : s.read file = .ok document) :
    runTask s config (.check file) = .ok (check config document) ∧
    ((∃ m, loadManager s config file = .ok m) → (check config document).status = 0) ∧
    (min config.maxChannels (Document.sessions document).length ≤ UInt32.size →
      (check config document).status = 0 → ∃ m, loadManager s config file = .ok m) ∧
    ((check config document).status ≠ 0 → ∃ report m,
      (Manager.empty config).load file (s.read file) someTime
        = (.error (.update (.rejected report)), m) ∧
      (check config document).out
        = String.join ((checkDocument config document).1.map (·.text))
          ++ ("\nSessions seen:        " ++ decimal report.sessions
            ++ "\nParsed:               " ++ decimal report.parsed
            ++ "\nSyntax errors:        " ++ decimal report.syntaxErrors
            ++ "\nValidated:            " ++ decimal report.validated
            ++ "\nValidation errors:    " ++ decimal report.validationErrors
            ++ "\nRegistry conflicts:   "
            ++ decimal (checkDocument config document).2.counters.conflicts ++ "\n") ∧
      Reports report (checkDocument config document)) := by
  rw [Ne, status_eq_zero_iff, success_check_iff, exists_loadManager_iff hread]
  refine ⟨?_, ?_, fun hroom => (exists_run_empty_iff hroom someTime).2, fun hfailed => ?_⟩
  · show (readFile s file >>= fun text => pure (check config text)) = _
    rw [readFile_of_read hread]
    rfl
  · rintro ⟨next, report, hrun⟩
    by_contra hfailed
    rw [run_empty_of_failed hfailed] at hrun
    cases hrun
  · obtain ⟨m, hload⟩ := load_of_error hread (run_empty_of_failed hfailed someTime)
    have hreports := reports_checkDocument config document
    refine ⟨_, m, hload, ?_, hreports⟩
    rw [hreports.seen, hreports.parsed, hreports.syntaxErrors, hreports.validated,
      hreports.validationErrors]
    rfl

/-- A document in which one broadcast is announced twice. -/
def twiceText : String := Document.boundary.intercalate [broadcastText, broadcastText]

theorem sessions_twiceText : Document.sessions twiceText = [broadcastText, broadcastText] := by
  have hwhole : Text.Whole broadcastText.toList := by
    rw [broadcastText, String.toList_ofList]
    decide +kernel
  unfold twiceText
  rw [Document.sessions_intercalate (by simpa using hwhole)]
  simp only [List.flatMap_cons, List.flatMap_nil, Registry.sessions_broadcastText]
  rfl

/-- The second one is refused for its key. -/
theorem checkDocument_twiceText :
    (checkDocument .standard twiceText).2.counters = ⟨2, 2, 0, 2, 0, 1, 0, 0⟩ ∧
      (checkDocument .standard twiceText).1.map (·.isChannel) = [true, false] ∧
      ((checkDocument .standard twiceText).1.filterMap (·.failure?)).map (·.index) = [1] := by
  unfold checkDocument
  rw [sessions_twiceText]
  unfold broadcastText checkFrom Registry.addText
  simp only [Session.ofText_ofList]
  decide +kernel

/-- So the document is refused when it is checked and when it is loaded, with the same counts. -/
theorem check_agrees_twiceText :
    ∃ s : Surroundings, ∃ file, s.read file = .ok twiceText ∧
      runTask s .standard (.check file) = .ok (check .standard twiceText) ∧
      (check .standard twiceText).status ≠ 0 ∧ ∃ report m,
        (Manager.empty .standard).load file (s.read file) someTime
          = (.error (.update (.rejected report)), m) ∧
        (check .standard twiceText).out
          = String.join ((checkDocument .standard twiceText).1.map (·.text))
            ++ ("\nSessions seen:        2\nParsed:               2\nSyntax errors:        0"
              ++ "\nValidated:            2\nValidation errors:    0\nRegistry conflicts:   1\n") ∧
        Reports report (checkDocument .standard twiceText) ∧
        report.failures.map (·.index) = [1] ∧ report.sessions = 2 ∧ report.validated = 2 := by
  have hread : (Surroundings.mk (fun _ => .ok twiceText) none "").read "news" = .ok twiceText := rfl
  obtain ⟨hcounters, hchannels, hindices⟩ := checkDocument_twiceText
  have hstatus : (check .standard twiceText).status ≠ 0 := by
    rw [Ne, status_eq_zero_iff, success_check, hchannels]
    decide
  obtain ⟨hrun, -, -, hrefused⟩ := check_agrees hread
  obtain ⟨report, m, hload, hout, hreports⟩ := hrefused hstatus
  have hseen := hreports.seen
  have hvalidated := hreports.validated
  rw [hcounters] at hseen hvalidated
  refine ⟨_, _, hread, hrun, hstatus, report, m, hload, ?_, hreports, ?_, hseen, hvalidated⟩
  · rw [hout, hreports.seen, hreports.parsed, hreports.syntaxErrors, hreports.validated,
      hreports.validationErrors, hcounters]
    generalize String.join ((checkDocument .standard twiceText).1.map (·.text)) = lines
    refine congrArg (lines ++ ·) ?_
    decide +kernel
  · rw [hreports.failures, hindices]

end Loading

end Command

end Lineup
