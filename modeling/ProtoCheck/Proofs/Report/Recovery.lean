import ProtoCheck.Proofs.Report.Command
import ProtoCheck.Proofs.Text.Breaks
import ProtoCheck.Proofs.Text.Replace

/-!
# Messages recovered from workflow commands

The percent sign is escaped before the ends of lines are, so that every percent sign in an escaped
message begins a code. Replacing the codes one after the other gives the message back, with that of
the percent sign last: by then there is no other code that it could form.

* `Command.toList_escaped_eq` : escaping, as three replacements;
* `Command.unescape`, `Command.unescape_escaped` : the way back;
* `Command.sentMessage?` : the message behind the second two colons of a line;
* `Style.annotations_recover` : each error is one line of the output, and its message comes back.
-/

namespace ProtoCheck

open Text

namespace Command

/-! ## Codes -/

/-- Escaping replaces percent signs, carriage returns and line feeds, in this order. -/
theorem toList_escaped_eq (message : String) : (Entry.escaped message).toList =
    replaceAll ['\n'] ['%', '0', 'A'] (replaceAll ['\r'] ['%', '0', 'D']
      (replaceAll ['%'] ['%', '2', '5'] message.toList)) := by
  rw [toList_escaped, replaceAll_singleton, replaceAll_singleton, replaceAll_singleton,
    List.flatMap_assoc, List.flatMap_assoc]
  congr 1
  funext c
  unfold escapedChar
  split_ifs <;> simp_all

/-- A text with the characters in place of the codes for line feeds, for carriage returns and for
percent signs, one code after the other. -/
def unescape (s : List Char) : List Char :=
  replaceAll ['%', '2', '5'] ['%'] (replaceAll ['%', '0', 'D'] ['\r']
    (replaceAll ['%', '0', 'A'] ['\n'] s))

theorem coded_escapedChar : Coded escapedChar := by
  intro c
  unfold escapedChar
  split_ifs with hp hr hn
  · exact .inr ⟨'2', '5', rfl, by decide, by decide⟩
  · exact .inr ⟨'0', 'D', rfl, by decide, by decide⟩
  · exact .inr ⟨'0', 'A', rfl, by decide, by decide⟩
  · exact .inl ⟨c, rfl, hp⟩

theorem unescape_escaped (message : String) :
    unescape (Entry.escaped message).toList = message.toList := by
  have hfeed := coded_escapedChar.replace ['%', '0', 'A'] (d := '\n') (by decide)
  have hreturn := hfeed.replace ['%', '0', 'D'] (d := '\r') (by decide)
  unfold unescape
  rw [toList_escaped, replaceAll_flatMap coded_escapedChar, replaceAll_flatMap hfeed,
    replaceAll_flatMap hreturn]
  -- every character is back when the last code is replaced
  refine Eq.trans ?_ (List.flatMap_singleton' message.toList)
  congr 1
  funext c
  unfold escapedChar
  split_ifs <;> simp_all

/-! ## Lines -/

/-- The message in a line: what stands behind the second two colons, codes replaced. -/
def sentMessage? (line : List Char) : Option String :=
  (atColons? line).bind fun command =>
    (atColons? command.2).map fun properties => String.ofList (unescape properties.2)

/-- A file name without the signs that mean something in a command. -/
def Unmarked (file : String) : Prop := ∀ c ∈ [',', ':', '%', '\r', '\n'], c ∉ file.toList

instance (file : String) : Decidable (Unmarked file) :=
  List.decidableBAll (fun c => c ∉ file.toList) [',', ':', '%', '\r', '\n']

end Command

namespace Entry
variable {file : String} {e : Entry} (h : Command.Unmarked (e.file.getD file))
include h

theorem oneLine_of_unmarked : Command.OneLine (e.file.getD file).toList :=
  ⟨h _ (by decide), h _ (by decide)⟩

/-- The message of an entry is the one in its line. -/
theorem sentMessage?_annotation :
    Command.sentMessage? (e.annotation file).toList = some e.message := by
  have hcolons : ¬ [':', ':'] <:+: (e.file.getD file).toList := fun hinf =>
    h ':' (by decide) (hinf.subset List.mem_cons_self)
  have hfirst : Command.atColons? (e.annotation file).toList = some ([], "error ".toList ++
      (e.propertiesText file ++ ':' :: ':' :: (escaped e.message).toList)) := by
    rw [annotation_toList]
    rfl
  have hsecond : Command.atColons? ("error ".toList ++ (e.propertiesText file ++
      ':' :: ':' :: (escaped e.message).toList)) =
        some ("error ".toList ++ e.propertiesText file, (escaped e.message).toList) := by
    refine Command.atColons?_eq_some_iff.2 ⟨by rw [List.append_assoc], ?_⟩
    have hsplit : "error ".toList ++ e.propertiesText file ++ [':'] =
        "error".toList ++ ' ' :: (e.propertiesText file ++ [':']) := by simp
    rw [hsplit, infix_append_cons_iff (by decide) (List.cons_ne_nil _ _)]
    rintro (hinf | hinf)
    · revert hinf
      decide
    · exact colons_propertiesText hcolons hinf
  unfold Command.sentMessage?
  rw [hfirst, Option.bind_some, hsecond, Option.map_some, Command.unescape_escaped,
    String.ofList_toList]

end Entry

namespace Style

/-- The lines of the workflow commands, one for each error. -/
theorem out_annotations (os : List Outcome) : (print .annotations os).out.toList =
    ((reports os).map fun x => (Entry.annotation x.1 x.2).toList).flatMap (· ++ ['\n']) := by
  unfold print unlines reports
  simp [String.toList_join, List.map_flatMap, List.flatMap_map, List.flatMap_assoc]

/-- **Messages survive in workflow commands.** For file names without the signs that mean something
in a command, the output has one line for each error, in order, with a line feed at its end, and no
carriage return. Escaping replaces percent signs, carriage returns and line feeds by codes; what is
behind the second two colons of a line is the message of its error once the codes in it are
replaced, for line feeds, for carriage returns and at last for percent signs. -/
theorem annotations_recover {os : List Outcome}
    (h : ∀ x ∈ reports os, Command.Unmarked (x.2.file.getD x.1)) :
    Text.lines (print .annotations os).out.toList =
        ((reports os).map fun x => (Entry.annotation x.1 x.2).toList) ++ [[]] ∧
      '\r' ∉ (print .annotations os).out.toList ∧ (print .annotations os).err = "" ∧
      (reports os).length = errorCount os ∧
      (∀ message, (Entry.escaped message).toList = replaceAll ['\n'] ['%', '0', 'A']
        (replaceAll ['\r'] ['%', '0', 'D'] (replaceAll ['%'] ['%', '2', '5'] message.toList))) ∧
      ((reports os).map fun x => Command.sentMessage? (Entry.annotation x.1 x.2).toList) =
        (reports os).map fun x => some x.2.message := by
  have hline : ∀ l ∈ (reports os).map fun x => (Entry.annotation x.1 x.2).toList,
      Command.OneLine l := by
    intro l hl
    obtain ⟨x, hx, rfl⟩ := List.mem_map.1 hl
    exact Entry.annotation_oneLine (Entry.oneLine_of_unmarked (h x hx))
  rw [out_annotations]
  refine ⟨pieces_flatMap_end (by decide) fun l hl => beq_false_of_notMem (hline l hl).1, ?_, rfl,
    length_reports os, Command.toList_escaped_eq,
    List.map_congr_left fun x hx => Entry.sentMessage?_annotation (h x hx)⟩
  intro hmem
  obtain ⟨l, hl, hreturn⟩ := List.mem_flatMap.1 hmem
  rcases List.mem_append.1 hreturn with hreturn | hreturn
  · exact (hline l hl).2 hreturn
  · exact absurd (List.mem_singleton.1 hreturn) (by decide)

/-- An outcome with a message in two lines that holds codes. -/
def coded : Outcome where
  file := "m.textproto"
  entries := [⟨"at 100%0A\r\nof %25", "resolve", some "a.proto", some 3, some 7⟩,
    ⟨"::", "decode", none, none, none⟩]

/-- Codes in a message are those of its text, and not of line feeds or percent signs. -/
theorem annotations_recover_coded :
    (∀ x ∈ reports [coded], Command.Unmarked (x.2.file.getD x.1)) ∧
      (print .annotations [coded]).out =
        "::error file=a.proto,line=3,col=7::at 100%250A%0D%0Aof %2525\n" ++
          "::error file=m.textproto,line=1::::\n" ∧
      ((reports [coded]).map fun x => Command.sentMessage? (Entry.annotation x.1 x.2).toList) =
        [some "at 100%0A\r\nof %25", some "::"] := by
  have hnames : ∀ x ∈ reports [coded], Command.Unmarked (x.2.file.getD x.1) := by decide
  obtain ⟨-, -, -, -, -, hmessages⟩ := annotations_recover hnames
  exact ⟨hnames, by decide, hmessages⟩

end Style

end ProtoCheck
