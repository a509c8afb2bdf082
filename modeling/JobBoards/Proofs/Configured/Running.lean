import JobBoards.Proofs.Configured.Refusals
import JobBoards.Proofs.Dialogue.Transcript
namespace JobBoards

theorem Threshold.exists_ofName?_iff {name : Text} : (∃ t, ofName? name = some t) ↔ name ∈ named.map Prod.fst := by
  rw [← Option.isSome_iff_exists, ofName?, List.lookup_isSome_iff, List.mem_map]
  exact exists_congr fun row => and_congr_right fun _ => beq_iff_eq.trans eq_comm

namespace Settings
variable {env : Environment} {settings : Settings}

def levelName (env : Environment) : Text := Text.upper ((env.value? "LOG_LEVEL").getD "INFO")

theorem logLevel_of_ofEnvironment (h : ofEnvironment env = .ok settings) : settings.logLevel = levelName env := by
  obtain ⟨sites, workers, timeout, -, -, -, rfl⟩ := ofEnvironment_eq_ok_iff.mp h
  rfl

theorem filled_eq_none_iff {name : Text} : filled env name = none ↔ env.text name = [] := by
  unfold filled Environment.text
  cases env.value? name with
  | none => simp
  | some s => simp

theorem rulesPath_of_ofEnvironment (h : ofEnvironment env = .ok settings)
    (hpath : env.text "CLASSIFIER_RULES_PATH" = []) : settings.rulesPath = none := by
  obtain ⟨sites, workers, timeout, -, -, -, rfl⟩ := ofEnvironment_eq_ok_iff.mp h
  exact filled_eq_none_iff.mpr hpath

end Settings

namespace Program
variable {world : World} {settings : Settings}

structure Completes (world : World) (settings : Settings) (trace : Trace) : Prop where
  session : trace.session = ⟨settings.verifies, settings.proxy⟩
  requests : trace.requests = requests settings (1 + Dialogue.refreshes (Dialogue.answered world.input))
  printed : ∃ turns, Dialogue.Answered (repository world settings .standard) 1 (Dialogue.answered world.input) turns ∧
    trace.printed = (Dialogue.transcript turns).flatMap (Dialogue.Message.text world.width)

theorem run_of_known {t : Threshold} (h : Settings.ofEnvironment world.environment = .ok settings)
    (hpath : settings.rulesPath = none) (hlevel : Threshold.ofName? settings.logLevel = some t) :
    ∃ trace, run world = .ok trace ∧ Completes world settings trace := by
  have hproper := Settings.proper_of_ofEnvironment h
  have hr (k : Nat) : ¬ ((repository world settings .standard).after k).Fails :=
    hproper.not_fails world .standard _ k
  obtain ⟨shell, turns, hrun, hanswered, hstands⟩ := Dialogue.run_stands world.width world.input fun k _ => hr k
  have hrounds : shell.repository.rounds = 1 + Dialogue.refreshes (Dialogue.answered world.input) := by
    rw [hstands.repository, Repository.rounds_after_of_not_fails _ fun k _ => hr k]
    exact Nat.zero_add _
  have hthreshold : threshold settings.logLevel = .ok t := by rw [threshold, hlevel]
  -- the settings, the level, the rules and the dialogue succeed one after the other
  rw [run, h]
  change ∃ trace, (threshold settings.logLevel >>= _) = _ ∧ _
  rw [hthreshold]
  change ∃ trace, (rules world settings.rulesPath >>= _) = _ ∧ _
  rw [hpath]
  change ∃ trace, (Shell.run world.width (repository world settings .standard) world.input >>= _) = _ ∧ _
  rw [hrun world.input rfl]
  exact ⟨_, rfl, rfl, congrArg (requests settings) hrounds, turns, hanswered, hstands.printed⟩

theorem run_of_unknown (h : Settings.ofEnvironment world.environment = .ok settings)
    (hlevel : Threshold.ofName? settings.logLevel = none) :
    run world = .error (.unknownSeverity settings.logLevel) := by
  have hthreshold : threshold settings.logLevel = .error (.unknownSeverity settings.logLevel) := by
    rw [threshold, hlevel]
  rw [run, h]
  change threshold settings.logLevel >>= _ = _
  rw [hthreshold]
  rfl

def failingBoard (level : Text) : World where
  environment := [("LOG_LEVEL", level), ("JOB_SOURCES", "careers.near.org"), ("HTTP_PROXY", "no proxy"),
    ("VERIFY_SSL", "No")]
  file _ := .missing
  calls := 980
  reply _ _ := .response 500 (.page [])
  clock _ _ _ := ⟨⟨2024, 3, 10⟩, 43200⟩
  width := 80
  input := "refresh\nexit\nrefresh"

end Program
end JobBoards
