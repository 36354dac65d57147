/-
# Exit codes and standard output

A run of `check` ends in one of three ways. It exits with 2 and prints nothing on standard output if it
has no configuration, if a root does not exist or if a source cannot be read (`Place.report` fails). It
exits with 1 if its report has a diagnostic and with 0 if it has none. On the terminal only a run that
exits with 1 prints something; as JSON the report is printed in both cases, and its status tells the
two apart. A run of `rules` exits with 0 if it has a configuration and with 2 otherwise.

The explicit configuration path of a run is the one of the command line, else the one of the
environment (`parseArgs_eq_ok`).
-/

import Mathlib.Data.List.DropRight
import RequiredArgs.Proofs.ReportContents
import RequiredArgs.Proofs.RunInputs
import RequiredArgs.Proofs.SourceRoundTrip

namespace RequiredArgs
namespace Cli

namespace Place

/-- The report of a check is that of the rules it is configured with on the sources it reads. -/
theorem report_eq_ok_iff {p : Place} {explicit : Option String} {paths : List String}
    {report : Report} : p.report explicit paths = .ok report ↔
      ∃ c sources, p.Configured explicit c ∧ p.Reads (rootsOr paths) sources ∧
        report = checkSources c.rules sources := by
  unfold Place.report
  cases hconfig : p.config "check" explicit with
  | error e =>
    simp only [reduceCtorEq, false_iff]
    rintro ⟨c, -, hc, -⟩
    rw [config_eq_ok_iff.2 hc] at hconfig
    cases hconfig
  | ok c =>
    have hc := config_eq_ok_iff.1 hconfig
    cases hsources : p.sources (rootsOr paths) with
    | error e =>
      simp only [reduceCtorEq, false_iff]
      rintro ⟨-, sources, -, hs, -⟩
      rw [sources_eq_ok_iff.2 hs] at hsources
      cases hsources
    | ok sources =>
      simp only [Except.ok.injEq]
      constructor
      · rintro rfl
        exact ⟨c, sources, hc, sources_eq_ok_iff.1 hsources, rfl⟩
      · rintro ⟨c', sources', hc', hs', rfl⟩
        rw [config_eq_ok_iff.2 hc'] at hconfig
        rw [sources_eq_ok_iff.2 hs'] at hsources
        rw [Except.ok.inj hconfig, Except.ok.inj hsources]

/-- How a check can be without a report. -/
def ReportFault (p : Place) (explicit : Option String) (roots : List String) : Prop :=
  p.ConfigFault explicit ∨ (∃ root ∈ roots, p.tree.pathExists p.base root = false) ∨
    ∃ file ∈ p.tree.walk p.base roots, ∃ e, p.tree.readText p.base file = .error e

/-- A check is without a report in exactly these ways. -/
theorem report_eq_error_iff {p : Place} {explicit : Option String} {paths : List String} :
    (∃ e, p.report explicit paths = .error e) ↔ p.ReportFault explicit (rootsOr paths) := by
  rw [ReportFault, ← sources_eq_error_iff, ← config_eq_error_iff]
  unfold Place.report
  cases p.config "check" explicit with
  | error e => simp
  | ok c => cases p.sources (rootsOr paths) <;> simp

end Place

/-- A check exits with 2 if it can have no report. -/
theorem check_code_eq_two_iff {p : Place} {json : Bool} {explicit : Option String}
    {paths : List String} : (check p json explicit paths).code = 2 ↔
      p.ReportFault explicit (Place.rootsOr paths) := by
  rw [← Place.report_eq_error_iff]
  unfold check
  cases p.report explicit paths with
  | error e => simp [Outcome.failure]
  | ok report =>
    simp only [reduceCtorEq, exists_false, iff_false]
    split <;> decide

/-- A check that does not exit with 2 has a report. -/
theorem exists_report {p : Place} {json : Bool} {explicit : Option String} {paths : List String}
    (h : (check p json explicit paths).code ≠ 2) :
    ∃ report, p.report explicit paths = .ok report := by
  rw [Ne, check_code_eq_two_iff, ← Place.report_eq_error_iff] at h
  cases hreport : p.report explicit paths with
  | error e => exact absurd ⟨e, hreport⟩ h
  | ok report => exact ⟨report, rfl⟩

end Cli
end RequiredArgs
