import CommandShell.Proofs.Command.Completing
import CommandShell.Proofs.Line.PlainWords

/-!
# Accepting an offer

An offer that is accepted takes the place of the whole text before the cursor, so the line is the
name that is displayed, perhaps with a space behind it (`exists_accept_eq`). What is inserted is the
name as it is in its directory, without quotes. So the line is a command of that name exactly if the
shell reads the name as itself, and that is if it is plain (`accept_names_iff`).

A file can have any other name as well, and then it is offered just the same. With a blank in it the
line is that of another command with an argument.
-/

namespace CommandShell.Completion

open CommandShell.Host CommandShell.Command CommandShell.Line

variable {r : Registry} {m : Machine} {before : String} {o : Offer}

/-- The text before the cursor once an offer is accepted: what is inserted stands in place of the
characters that it replaces. -/
def Offer.accept (o : Offer) (before : String) : String :=
  String.ofList (before.toList.take (before.length - o.replaced)) ++ o.inserted

theorem exists_accept_eq (ho : o ∈ complete r m before) :
    ∃ trail : String, (∀ c ∈ trail.toList, Text.isBlank c = true) ∧
      o.accept before = o.display ++ trail := by
  have hblank : before.toList.any Text.isBlank = false := by
    by_contra hblank
    rw [complete, if_pos (by simpa using hblank)] at ho
    cases ho
  rw [complete_of_no_blank hblank] at ho
  obtain ⟨name, -, rfl⟩ := List.mem_map.mp ho
  refine ⟨if (candidates r m before).length = 1 then " " else "", ?_, ?_⟩
  · split_ifs
    · exact List.forall_mem_singleton.mpr rfl
    · exact List.forall_mem_nil _
  · rw [Offer.accept, Nat.sub_self, List.take_zero]
    exact String.empty_append

/-- **An accepted offer names the command exactly if its name is plain**: not empty, and without a
blank, a quote, a backslash or a pipe. -/
theorem accept_names_iff (ho : o ∈ complete r m before) :
    (∃ parsed, parse (o.accept before) = .ok parsed ∧ parsed.commands = [⟨o.display, []⟩] ∧
        parsed.redirection = {}) ↔
      o.display ≠ "" ∧ ∀ c ∈ o.display.toList, IsPlain c := by
  obtain ⟨trail, htrail, haccept⟩ := exists_accept_eq ho
  rw [haccept, parse_self_iff htrail]

/-- The tool that is offered alone for `to` is run when the offer is accepted. -/
theorem accept_names_tool :
    (⟨"tool ", 2, "tool"⟩ : Offer) ∈ complete Standard.registry shelved "to" ∧
    ∃ parsed, parse ((⟨"tool ", 2, "tool"⟩ : Offer).accept "to") = .ok parsed ∧
      parsed.commands = [⟨"tool", []⟩] ∧ parsed.redirection = {} := by
  have hoffer : (⟨"tool ", 2, "tool"⟩ : Offer) ∈ complete Standard.registry shelved "to" := by
    rw [complete_of_no_blank (by decide), candidates_shelved]
    exact List.mem_singleton_self _
  have hplain : ∀ c ∈ ['t', 'o', 'o', 'l'], IsPlain c := by
    simp only [List.forall_mem_cons, List.not_mem_nil, false_implies, implies_true]
    decide
  exact ⟨hoffer, (accept_names_iff hoffer).mpr ⟨by decide, hplain⟩⟩

/-! ### A name with a space in it -/

/-- A shell that searches one directory, with one executable in it. -/
def spaced : Machine where
  files := ((({} : FileSystem).create 0 "b" (.directory 0 [])).1.create 1 "my tool"
    (.file 0o755 ⟨#[1]⟩)).1
  environment := ⟨[("PATH", "b")]⟩

theorem list_spaced : spaced.files.list spaced.cwd "b" = .ok ["my tool"] := by
  have hfind : spaced.files.find spaced.cwd "b" = .ok 1 :=
    FileSystem.find_of_leads 0 ["b"] (by decide) (.node rfl nofun (.nil 1)) (by decide)
  rw [FileSystem.list, FileSystem.lookUp_eq_ok_iff.mpr ⟨hfind, rfl⟩]
  rfl

theorem isAccessible_spaced :
    spaced.files.isAccessible spaced.cwd (Path.join "b" "my tool") = true := by
  have hjoin : Path.join "b" "my tool" = "b/my tool" := by decide
  have hfind : spaced.files.find spaced.cwd "b/my tool" = .ok 2 :=
    FileSystem.find_of_leads 0 ["b", "my tool"] (by decide)
      (.node rfl nofun (.node rfl nofun (.nil 2))) (by decide)
  rw [hjoin, FileSystem.isAccessible, FileSystem.holds,
    FileSystem.lookUp_eq_ok_iff.mpr ⟨hfind, rfl⟩]
  rfl

theorem candidates_spaced : candidates Standard.registry spaced "my" = ["my tool"] := by
  have hentries : entriesOf spaced "my" "b" = ["my tool"] :=
    entriesOf_eq_singleton list_spaced (by decide) isAccessible_spaced
  have hdirectories : directories spaced.searchPath = ["b"] := by decide
  have hbuiltins : Standard.registry.registered.filter
      (fun name ↦ "my".toList.isPrefixOf name.toList) = [] := by decide
  have hdups : ([] ++ (["my tool"] ++ [])).eraseDups = ["my tool"] := by decide
  rw [candidates, Option.getD_none, hdirectories, hbuiltins, List.flatMap_cons, List.flatMap_nil,
    hentries, sorted, hdups, List.mergeSort_singleton]

/-- The executable is offered, and the line that comes of it is a command `my` with an argument. -/
theorem accept_names_other :
    (⟨"my tool ", 2, "my tool"⟩ : Offer) ∈ complete Standard.registry spaced "my" ∧
    parse ((⟨"my tool ", 2, "my tool"⟩ : Offer).accept "my") =
      .ok { raw := "my tool", commands := [⟨"my", ["tool"]⟩] } := by
  constructor
  · rw [complete_of_no_blank (by decide), candidates_spaced]
    exact List.mem_singleton_self _
  · have haccept : (⟨"my tool ", 2, "my tool"⟩ : Offer).accept "my" = "my tool " := by decide
    rw [haccept]
    decide +kernel

end CommandShell.Completion
