import ProtoCheck.Proofs.Report.Command
import ProtoCheck.Proofs.Schema.Breakdown
import ProtoCheck.Proofs.Validation

/-!
# Commands for what is recorded

An error of resolving can stand in another file than the validated one, whose name comes from the
schema that the file asks for. The workflow command holds this name as it is.

* `Schema.stage_of_missing`, `Validator.check_of_missing` : a schema that opens nowhere is recorded
  under its own name;
* `Validator.check_annotates` : when the command for an error of resolving tells what is recorded.
-/

namespace ProtoCheck

open Schema

/-! ## Schemas that open nowhere -/

/-- The failure of a schema that opens nowhere. -/
def Schema.unopened (name : String) (e : Option AccessError) : Failure :=
  Failure.schemaCompile (name ++ ": " ++ e.elim "file not found" AccessError.message) []
    (some (Location.ofFile name)) none

theorem Schema.stage_of_missing {store : Store} {roots : List String} {name : String}
    {e : Option AccessError} (h : lookUp store roots name = .missing e) :
    (stage dir store roots [name]).2 = some (.failed (unopened name e)) := by
  have hlookup : (([(name, e)] : List (String × Option AccessError)).lookup name).bind id = e := by
    simp
  have hfailure : ((({} : Staging).look roots name (.missing e)).miss name e).notFound name =
      unopened name e := by
    unfold Staging.notFound unopened
    change Failure.schemaCompile (name ++ ": " ++ ((List.lookup name [(name, e)]).bind id).elim
      "file not found" AccessError.message) [] _ none = _
    rw [hlookup]
  unfold stage
  rw [Staging.request, Staging.run_missing List.not_mem_nil h, Staging.run]
  exact congrArg (fun f => some (Stop.failed f)) hfailure

namespace Validator

variable {v : Validator} {path : String}

/-- A schema that opens nowhere is recorded under its own name, without a line. -/
theorem check_of_missing {raw : Bytes} {d : Directives} {name : String} {err : Option AccessError}
    (h : v.Heads path raw d) (hname : virtualName? d.schema = some name)
    (hmissing : lookUp v.store (searchedRoots v.importPaths) name = .missing err) :
    (v.check path).result = .ok ⟨tidied path,
      [{ message := "failed to find message " ++ d.message ++ " in " ++ d.schema ++ ": " ++
          (name ++ ": " ++ err.elim "file not found" AccessError.message)
         stage := Stage.resolve.name
         file := if tidied name = tidied path then none else some (tidied name) }]⟩ := by
  have hnames : virtualNames [d.schema] = .ok [name] := virtualNames_singleton.2 ⟨name, hname, rfl⟩
  have hcompile := (compile_of_stopped v.compiler (List.cons_ne_nil d.schema []) hnames
    (stage_of_missing hmissing)).1
  have hentry := result_check_of_failed
    (result_validate_of_unresolved h (result_resolve_of_stopped hcompile))
  have hfile := file_entryOf_of_location path (f := unresolved d (unopened name err)) rfl rfl
  rw [hentry, ← hfile]
  rfl

/-- **When the command for an error of resolving tells what is recorded.** The error is the only one
of its file and its command is all that is printed. Who reads the command gets back file, line,
column and message as they are recorded when the file name is plain: without commas, neighbouring
colons, codes and ends of lines. With any other file name something else is read. -/
theorem check_annotates (v : Validator) (path : String) {o : Outcome} {e : Entry}
    (ho : (v.check path).result = .ok o) (he : e ∈ o.entries) (hs : e.stage = Stage.resolve.name) :
    o.entries = [e] ∧ e.stage = Stage.resolve.name ∧
    Style.annotations.print [o] = ⟨"::error " ++ (e.properties o.file ++ ("::" ++
      Entry.escaped e.message)) ++ "\n", ""⟩ ∧
    (Command.ofOutput (Style.annotations.print [o]).out =
        [some ⟨("file", e.file.getD o.file) :: ("line", toString (e.line.getD 1)) ::
          (e.column.map fun n => ("col", toString n)).toList, e.message⟩] ↔
      Command.Plain (e.file.getD o.file)) := by
  have hone : o.entries = [e] := by
    rcases recorded_cases ho with ⟨-, rfl⟩ | ⟨f, -, -, rfl⟩
    · exact absurd he List.not_mem_nil
    · rw [List.mem_singleton.1 he]
  have hprint : Style.annotations.print [o] = ⟨e.annotation o.file ++ "\n", ""⟩ := by
    unfold Style.print Style.unlines
    simp [hone]
  refine ⟨hone, hs, ?_, ?_⟩
  · rw [hprint, Entry.annotation_eq]
  · rw [hprint]
    exact Entry.annotation_ofOutput_iff

/-! ## A comma in a schema name -/

/-- The contents of a file that asks for a schema. -/
def request (schema : String) : Bytes :=
  Utf8.encodeString ("# proto-file: " ++ schema ++ "\n# proto-message: M")

/-- A disk with that file and nothing else. -/
def asked (schema : String) : Tree := .ofLists [] [("m.textproto", request schema)] []

def asking (schema : String) : Validator := ⟨.disk (asked schema), [], Schema.uninstalled⟩

/-- What is recorded about the file. -/
def absent (schema : String) : Entry where
  message := "failed to find message " ++ "M" ++ " in " ++ schema ++ ": " ++
    (schema ++ ": " ++ ("open " ++ schema ++ ": " ++ OsError.noEntry.message))
  stage := Stage.resolve.name
  file := some schema

theorem check_asking {schema : String}
    (hread : (asked schema).read "m.textproto" = .ok (request schema))
    (hheader : Header.extract (Utf8.decodeLossy (request schema)) = .ok ⟨schema, "M"⟩)
    (hname : virtualName? schema = some schema) (hpath : pathUnder "." schema = schema)
    (hnul : '\x00' ∉ schema.toList) (hgone : (asked schema).read schema = .error .noEntry)
    (htidied : tidied schema = schema) (hother : schema ≠ tidied "m.textproto") :
    ((asking schema).check "m.textproto").result =
      .ok ⟨tidied "m.textproto", [absent schema]⟩ := by
  have hheads : (asking schema).Heads "m.textproto" (request schema) ⟨schema, "M"⟩ := by
    refine ⟨?_, hheader⟩
    change (Store.disk (asked schema)).read "m.textproto" = _
    rw [Store.read_disk (by decide), hread]
    rfl
  have hmissing : lookUp (asking schema).store (searchedRoots []) schema =
      .missing (some (.refused schema .noEntry)) := by
    change lookUpFrom (.disk (asked schema)) schema 0 none ["."] = _
    rw [lookUpFrom, hpath, Store.read_disk hnul, hgone]
    rfl
  rw [check_of_missing hheads hname hmissing, htidied, if_neg hother]
  rfl

/-- The command for a schema with a plain name tells its name. -/
theorem check_asking_plain :
    ((asking "none.proto").check "m.textproto").result =
        .ok ⟨tidied "m.textproto", [absent "none.proto"]⟩ ∧
      Command.ofOutput (Style.annotations.print
        [⟨tidied "m.textproto", [absent "none.proto"]⟩]).out =
          [some ⟨[("file", "none.proto"), ("line", "1")], (absent "none.proto").message⟩] := by
  have ho : ((asking "none.proto").check "m.textproto").result =
      .ok ⟨tidied "m.textproto", [absent "none.proto"]⟩ :=
    check_asking (by decide +kernel) (by decide +kernel) (by decide +kernel) (by decide +kernel)
      (by decide) (by decide) (by decide) (by decide)
  have hplain : Command.Plain "none.proto" :=
    ⟨by decide, by decide, by decide, by decide⟩
  obtain ⟨-, -, -, hread⟩ := check_annotates _ _ ho List.mem_cons_self rfl
  exact ⟨ho, hread.2 hplain⟩

theorem print_absent (schema : String) :
    Style.annotations.print [⟨tidied "m.textproto", [absent schema]⟩] =
      ⟨Entry.annotation (tidied "m.textproto") (absent schema) ++ "\n", ""⟩ := by
  unfold Style.print Style.unlines
  simp

/-- A comma in the name of a schema makes another property of what stands behind it. -/
theorem check_asking_comma :
    ((asking "a,line=9.proto").check "m.textproto").result =
        .ok ⟨tidied "m.textproto", [absent "a,line=9.proto"]⟩ ∧
      (Style.annotations.print [⟨tidied "m.textproto", [absent "a,line=9.proto"]⟩]).out =
        "::error file=a,line=9.proto,line=1::failed to find message M in a,line=9.proto: " ++
          "a,line=9.proto: open a,line=9.proto: No such file or directory\n" ∧
      Command.ofOutput (Style.annotations.print
        [⟨tidied "m.textproto", [absent "a,line=9.proto"]⟩]).out =
          [some ⟨[("file", "a"), ("line", "9.proto"), ("line", "1")],
            (absent "a,line=9.proto").message⟩] ∧
      Command.ofOutput (Style.annotations.print
        [⟨tidied "m.textproto", [absent "a,line=9.proto"]⟩]).out ≠
          [some ⟨[("file", "a,line=9.proto"), ("line", "1")],
            (absent "a,line=9.proto").message⟩] := by
  have ho : ((asking "a,line=9.proto").check "m.textproto").result =
      .ok ⟨tidied "m.textproto", [absent "a,line=9.proto"]⟩ :=
    check_asking (by decide +kernel) (by decide +kernel)
    (by decide +kernel) (by decide +kernel) (by decide +kernel) (by decide +kernel)
    (by decide) (by decide)
  have hproperties : Command.readProperties
      ((absent "a,line=9.proto").propertiesText (tidied "m.textproto")) =
        [("file", "a"), ("line", "9.proto"), ("line", "1")] := by
    decide
  have hread : Command.ofOutput (Style.annotations.print
      [⟨tidied "m.textproto", [absent "a,line=9.proto"]⟩]).out =
        [some ⟨[("file", "a"), ("line", "9.proto"), ("line", "1")],
          (absent "a,line=9.proto").message⟩] := by
    rw [print_absent, ← hproperties]
    exact Entry.annotation_ofOutput (by decide) (by decide)
  refine ⟨ho, by decide +kernel, hread, ?_⟩
  rw [hread]
  intro h
  have hshifted := congrArg Command.properties (Option.some.inj (List.head_eq_of_cons_eq h))
  exact absurd hshifted (by decide)

end Validator

end ProtoCheck
