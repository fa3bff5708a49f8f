import ApiScribe.Cli.Run
import ApiScribe.Proofs.Project.Pruning
import ApiScribe.Proofs.Project.Writing

/-!
# Runs are all or nothing

A run on a project directory either fails on the annotations of its source files and has no effect,
or it gives out the document of all of them and does nothing else.
-/

namespace ApiScribe.Cli

open Builder OpenApi Project

variable {tree project : FileTree} {arguments : Arguments} {doc : Document}
  {errors : List Diagnostic}

/-- The declarations of a project are built, and their errors are an obstacle or not. -/
lemma document_eq (hproject : tree.entry? arguments.projectPath = some (.directory project))
    (hgenerate : generate tree arguments.projectPath = .ok (doc, errors)) :
    document tree arguments =
      if !errors.isEmpty && !arguments.allowErrors then .error (.annotations errors)
      else .ok (doc, errors) := by
  rw [document, hproject, hgenerate]
  rfl

lemma run_of_errors (hproject : tree.entry? arguments.projectPath = some (.directory project))
    (hgenerate : generate tree arguments.projectPath = .ok (doc, errors)) (herrors : errors ≠ [])
    (hstrict : arguments.allowErrors = false) :
    run tree arguments = { tree, printed := "", result := .error (.annotations errors) } := by
  have hdocument := document_eq hproject hgenerate
  rw [if_pos (by simp [hstrict, herrors])] at hdocument
  rw [run, hdocument]

lemma run_eq_emit (hproject : tree.entry? arguments.projectPath = some (.directory project))
    (hgenerate : generate tree arguments.projectPath = .ok (doc, errors))
    (haccepted : errors = [] ∨ arguments.allowErrors = true) :
    run tree arguments = emit tree arguments doc := by
  have hdocument := document_eq hproject hgenerate
  rw [if_neg (by rcases haccepted with h | h <;> simp [h])] at hdocument
  rw [run, hdocument]

lemma emit_of_output (tree : FileTree) (doc : Document) {path : String}
    (h : arguments.output = some path) :
    emit tree arguments doc =
      { tree := (tree.write path (arguments.format.write doc)).1, printed := ""
        result := (tree.write path (arguments.format.write doc)).2.mapError .write } := by
  rw [emit, h]

lemma mapError_eq_ok_iff {ε ε' : Type} {f : ε → ε'} {result : Except ε Unit} :
    result.mapError f = .ok () ↔ result = .ok () := by
  cases result with
  | error error => exact ⟨nofun, nofun⟩
  | ok _ => exact ⟨fun _ => rfl, fun _ => rfl⟩

/-- Each run on a project directory builds the document from those of its source files that are
well-formed Rust in UTF-8, and leaving out others changes nothing. Errors that are not allowed end
it without any effect. Otherwise the document is printed as JSON or YAML, or it is written and only
directories on the way to its file are new besides. -/
theorem run_all_or_nothing
    (hproject : tree.entry? arguments.projectPath = some (.directory project)) :
    ∃ files doc errors text, scan tree arguments.projectPath = .ok files ∧
      build (files.flatMap (·.declarations)) = (doc, errors) ∧
      (arguments.format = .json → text = doc.toJson.pretty) ∧
      (arguments.format = .yaml → text = Yaml.write doc.toJson) ∧
      (∀ pruned, Pruned arguments.projectPath tree pruned →
        generate pruned arguments.projectPath = .ok (doc, errors)) ∧
      (errors ≠ [] ∧ arguments.allowErrors = false →
        run tree arguments = { tree, printed := "", result := .error (.annotations errors) }) ∧
      (errors = [] ∨ arguments.allowErrors = true →
        (arguments.output = none →
          run tree arguments = { tree, printed := text ++ "\n", result := .ok () }) ∧
        ∀ path, arguments.output = some path →
          (run tree arguments).printed = "" ∧
          ((run tree arguments).result = .ok () ↔ tree.Writable path) ∧
          ((run tree arguments).result = .ok () →
            (run tree arguments).tree.text? path = some text ∧
            ∀ names, (run tree arguments).tree.node? names =
              if names = place path then some (.file text.toUTF8)
              else if names ∈ passed path ∧ tree.node? names = none then some .directory
              else tree.node? names) ∧
          ((run tree arguments).result ≠ .ok () →
            FileTree.Grows (passed path) tree (run tree arguments).tree)) := by
  obtain ⟨files, hscan⟩ : ∃ files, scan tree arguments.projectPath = .ok files := by
    rw [scan, hproject]
    exact ⟨_, rfl⟩
  obtain ⟨⟨doc, errors⟩, hbuild⟩ : ∃ built, build (files.flatMap (·.declarations)) = built :=
    ⟨_, rfl⟩
  have hgenerate : generate tree arguments.projectPath = .ok (doc, errors) := by
    rw [generate, hscan, ← hbuild, ← declarationsOf_eq]
    rfl
  refine ⟨files, doc, errors, arguments.format.write doc, hscan, hbuild, fun hjson => ?_,
    fun hyaml => ?_, fun pruned h => ?_, fun hstopped => ?_, fun haccepted => ?_⟩
  · rw [hjson, Format.write]
  · rw [hyaml, Format.write]
  · rw [h.generate_eq hproject, hgenerate]
  · exact run_of_errors hproject hgenerate hstopped.1 hstopped.2
  · rw [run_eq_emit hproject hgenerate haccepted]
    refine ⟨fun hnone => ?_, fun path hsome => ?_⟩
    · rw [emit, hnone]
    · rw [emit_of_output tree doc hsome]
      dsimp only
      refine ⟨rfl, mapError_eq_ok_iff.trans FileTree.write_eq_ok_iff, fun hok => ?_,
        fun hfailed => ?_⟩
      · have hwritable := FileTree.write_eq_ok_iff.mp (mapError_eq_ok_iff.mp hok)
        exact ⟨hwritable.text?_write _, hwritable.node?_write _⟩
      · have hwritable := mt FileTree.write_eq_ok_iff.mpr (mt mapError_eq_ok_iff.mpr hfailed)
        exact FileTree.write_grows hwritable _

/-! ### A project -/

/-- A source file with two annotations, of which the second fails. -/
def petSource : String := "/// @API Pets\n/// @Tag Orphan\nfn main() \x7b\x7d\n"

def petDeclaration : Declaration :=
  { name := "main", value := none, doc := " @API Pets\n @Tag Orphan"
    location := { file := "project/lib.rs", line := 3 } }

/-- A project with the source file, besides others that contribute nothing: one that is no text, one
that is not called a source file, one of build output and one outside the project. -/
def petProject : FileTree :=
  ⟨[("build.rs", .file petSource.toUTF8),
    ("project", .directory
      ⟨[("blob.rs", .file ⟨#[255]⟩), ("lib.rs", .file petSource.toUTF8),
        ("notes.txt", .file .empty),
        ("target", .directory ⟨[("gen.rs", .file petSource.toUTF8)]⟩)]⟩)]⟩

/-- The project without these files. -/
def prunedPetProject : FileTree :=
  ⟨[("project", .directory ⟨[("lib.rs", .file petSource.toUTF8), ("target", .directory ⟨[]⟩)]⟩)]⟩

def petJson : String :=
  "\x7b\n  \"openapi\": \"3.0.0\",\n  \"info\": \x7b\n    \"title\": \"Pets\"\n  \x7d,\n" ++
    "  \"paths\": \x7b\x7d\n\x7d"

lemma pruned_petProject : Pruned "project" petProject prunedPetProject := by
  refine .leave "build.rs" rfl ?outside (.directory "project" (.leave "blob.rs" rfl ?blob
    (.keep "lib.rs" rfl (.leave "notes.txt" rfl ?notes
      (.directory "target" (.leave "gen.rs" rfl ?output .nil) .nil)))) .nil)
  case outside => exact fun h => absurd h.below (by decide)
  case blob =>
    intro h
    obtain ⟨content, hcontent, hitems⟩ := h.content
    cases hcontent
    exact absurd hitems (by decide)
  case notes =>
    intro h
    obtain ⟨stem, hstem, hname⟩ := h.name
    have hsource := isSourceName_iff.mpr ⟨stem, hstem, Option.some.inj hname⟩
    exact absurd hsource (by decide)
  case output => exact fun h => (h.way "target" (by decide)).1 rfl

lemma declarationsAt_petSource :
    declarationsAt "project" "lib.rs" (.file petSource.toUTF8) = [petDeclaration] := by
  have hitems : Rust.items? petSource =
      some [{ name := "main", line := 3, value := none, doc := " @API Pets\n @Tag Orphan" }] := by
    decide +kernel
  have hleaf : Entry.isDirectory (.file petSource.toUTF8) = false := rfl
  have hname : isSourceName "lib.rs" = true := by decide
  have hpath : joinPath "project" "lib.rs" = "project/lib.rs" := by decide
  rw [declarationsAt, hleaf, Bool.false_and, if_neg Bool.false_ne_true, Entry.sourceFiles,
    if_pos hname, List.flatMap_singleton, hpath, FoundFile.declarations, items?,
    FileTree.fromUTF8?_toUTF8, Option.bind_some, hitems]
  rfl

lemma generate_prunedPetProject :
    generate prunedPetProject "project" = .ok (build [petDeclaration]) := by
  have hentry : prunedPetProject.entry? "project" = some (.directory
      ⟨[("lib.rs", .file petSource.toUTF8), ("target", .directory ⟨[]⟩)]⟩) := rfl
  have htarget : declarationsAt "project" "target" (.directory ⟨[]⟩) = [] := rfl
  have hnil : contributions "project" ⟨[]⟩ = [] := rfl
  rw [Project.generate_eq hentry, contributions_cons, contributions_cons, htarget, hnil,
    declarationsAt_petSource]
  simp [inNameOrder]

def petArguments : Arguments := { projectPath := "project", format := .json }

/-- The failing annotation stops a run of the project. If it is allowed, the rest of the document is
printed or written, whether or not the files that contribute nothing are there. -/
theorem run_all_or_nothing_petProject :
    ∃ project doc error,
      petProject.entry? "project" = some (.directory project) ∧
      Pruned "project" petProject prunedPetProject ∧
      generate prunedPetProject "project" = .ok (doc, [error]) ∧
      error.message = "project/lib.rs:3: main: @Tag: must be used with Operation" ∧
      run petProject petArguments =
        { tree := petProject, printed := "", result := .error (.annotations [error]) } ∧
      run petProject { petArguments with allowErrors := true } =
        { tree := petProject, printed := petJson ++ "\n", result := .ok () } ∧
      let outcome :=
        run petProject { petArguments with allowErrors := true, output := some "out/api.json" }
      outcome.tree.text? "out/api.json" = some petJson ∧
        outcome.tree.node? ["out"] = some .directory := by
  obtain ⟨project, hproject⟩ : ∃ project, petProject.entry? "project" = some (.directory project) :=
    ⟨_, rfl⟩
  have hpretty : (build [petDeclaration]).1.toJson.pretty = petJson := by decide +kernel
  have hmessages : (build [petDeclaration]).2.map (·.message) =
      ["project/lib.rs:3: main: @Tag: must be used with Operation"] := by decide +kernel
  obtain ⟨error, herror, hmessage⟩ := List.map_eq_singleton_iff.mp hmessages
  have hgenerate := generate_prunedPetProject
  rw [show build [petDeclaration] = ((build [petDeclaration]).1, [error]) from
    Prod.ext rfl herror] at hgenerate
  have hsame {doc : Document} {errors : List Diagnostic}
      (h : generate prunedPetProject "project" = .ok (doc, errors)) :
      (build [petDeclaration]).1 = doc ∧ [error] = errors := by
    simpa using hgenerate.symm.trans h
  refine ⟨project, _, error, hproject, pruned_petProject, hgenerate, hmessage, ?_, ?_, ?_⟩
  · obtain ⟨-, doc, errors, -, -, -, -, -, hpruned, hstopped, -⟩ :=
      @run_all_or_nothing petProject project petArguments hproject
    obtain ⟨rfl, rfl⟩ := hsame (hpruned _ pruned_petProject)
    exact hstopped ⟨List.cons_ne_nil _ _, rfl⟩
  · obtain ⟨-, doc, errors, text, -, -, hjson, -, hpruned, -, hrun⟩ :=
      @run_all_or_nothing petProject project { petArguments with allowErrors := true } hproject
    obtain ⟨rfl, rfl⟩ := hsame (hpruned _ pruned_petProject)
    rw [(hrun (.inr rfl)).1 rfl, hjson rfl, hpretty]
  · obtain ⟨-, doc, errors, text, -, -, hjson, -, hpruned, -, hrun⟩ :=
      @run_all_or_nothing petProject project
        { petArguments with allowErrors := true, output := some "out/api.json" } hproject
    obtain ⟨rfl, rfl⟩ := hsame (hpruned _ pruned_petProject)
    obtain rfl : text = petJson := (hjson rfl).trans hpretty
    obtain ⟨-, hiff, hwritten, -⟩ := (hrun (.inr rfl)).2 "out/api.json" rfl
    obtain ⟨htext, hnode⟩ := hwritten (hiff.mpr (by decide))
    exact ⟨htext, (hnode ["out"]).trans (by decide)⟩

end ApiScribe.Cli
