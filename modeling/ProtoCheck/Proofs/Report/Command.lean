import ProtoCheck.Proofs.Report
import ProtoCheck.Proofs.Text.Blank

/-!
# Reading workflow commands

What is printed as a workflow command is read again by the one who runs the program: line by line,
with properties up to the first two colons, a comma between neighbours, and codes for characters
that mean something there.

* `Command.decode` : characters in place of their codes, `Command.decode_escaped` : it undoes the
  escaping of messages;
* `Command.atColons?`, `Command.readProperties`, `Command.ofOutput` : how commands are read;
* `Command.Plain` : file names that mean nothing else in a command;
* `Entry.annotation_ofOutput` : what is read from the command for an entry,
  `Entry.annotation_ofOutput_iff` : when it is the entry.
-/

namespace ProtoCheck

/-- A command that tells of an error. -/
structure Command where
  properties : List (String × String)
  message : String
  deriving DecidableEq, Repr

namespace Command

/-! ## Codes -/

/-- Codes with the characters that they stand for. -/
abbrev Table := List (List Char × Char)

/-- The codes in properties. -/
def codes : Table :=
  [(['%', '2', '5'], '%'), (['%', '0', 'D'], '\r'), (['%', '0', 'A'], '\n'),
    (['%', '3', 'A'], ':'), (['%', '2', 'C'], ',')]

/-- The codes in messages. -/
def messageCodes : Table := codes.take 3

/-- A text with characters in place of their codes. -/
def decode (table : Table) : List Char → List Char
  | '%' :: a :: b :: rest =>
    match table.lookup ['%', a, b] with
    | some c => c :: decode table rest
    | none => '%' :: decode table (a :: b :: rest)
  | c :: rest => c :: decode table rest
  | [] => []

section Decode
variable {table : Table}

theorem decode_cons_of_ne {c : Char} (h : c ≠ '%') (rest : List Char) :
    decode table (c :: rest) = c :: decode table rest := by
  rw [decode]
  intro a b more hc
  exact absurd hc h

theorem decode_of_notMem {s : List Char} (h : '%' ∉ s) : decode table s = s := by
  induction s with
  | nil => rfl
  | cons c rest ih =>
    rw [List.mem_cons, not_or] at h
    rw [decode_cons_of_ne (Ne.symm h.1), ih h.2]

theorem length_decode_le (table : Table) (s : List Char) :
    (decode table s).length ≤ s.length := by
  fun_induction decode table s with
  | case1 a b rest c hc ih =>
    simp only [List.length_cons]
    omega
  | case2 a b rest hc ih => simpa using ih
  | case3 c rest hne ih => simpa using ih
  | case4 => exact Nat.le_refl 0

/-- A code makes a text shorter. -/
theorem length_decode_lt {s : List Char} {a b : Char} (hcode : (table.lookup ['%', a, b]).isSome)
    (h : ['%', a, b] <:+: s) : (decode table s).length < s.length := by
  fun_induction decode table s with
  | case1 x y rest c hc ih =>
    have hle := length_decode_le table rest
    simp only [List.length_cons]
    omega
  | case2 x y rest hnone ih =>
    rcases List.infix_cons_iff.1 h with hpre | hinf
    · have hab : a = x ∧ b = y := by simpa using hpre
      rw [hab.1, hab.2, hnone] at hcode
      exact nomatch hcode
    · have hlt := ih hinf
      simp only [List.length_cons] at hlt ⊢
      omega
  | case3 c rest hne ih =>
    rcases List.infix_cons_iff.1 h with hpre | hinf
    · obtain ⟨more, hmore⟩ := hpre
      obtain ⟨hc, hrest⟩ := List.cons.inj hmore
      exact absurd hrest.symm (hne a b more hc.symm)
    · have hlt := ih hinf
      simp only [List.length_cons]
      omega
  | case4 => exact absurd (List.eq_nil_of_infix_nil h) (List.cons_ne_nil _ _)

theorem decode_eq_self_iff {s : List Char} : decode table s = s ↔
    ∀ a b, (table.lookup ['%', a, b]).isSome → ¬ ['%', a, b] <:+: s := by
  constructor
  · intro h a b hcode hinf
    have hlt := length_decode_lt hcode hinf
    rw [h] at hlt
    exact Nat.lt_irrefl _ hlt
  · intro h
    fun_induction decode table s with
    | case1 a b rest c hc ih =>
      exact absurd (List.prefix_append ['%', a, b] rest).isInfix (h a b (by rw [hc]; rfl))
    | case2 x y rest hnone ih =>
      rw [ih fun a b hcode hinf => h a b hcode (List.infix_cons hinf)]
    | case3 c rest hne ih =>
      rw [ih fun a b hcode hinf => h a b hcode (List.infix_cons hinf)]
    | case4 => rfl

end Decode

theorem decode_codes_eq_self_iff {s : List Char} :
    decode codes s = s ↔ ∀ p ∈ codes, ¬ p.1 <:+: s := by
  rw [decode_eq_self_iff]
  constructor
  · intro h
    simp only [codes, List.forall_mem_cons]
    refine ⟨h _ _ rfl, h _ _ rfl, h _ _ rfl, h _ _ rfl, h _ _ rfl, fun p hp => nomatch hp⟩
  · intro h a b hcode
    obtain ⟨p, hp, he⟩ := List.lookup_isSome_iff.1 hcode
    rw [beq_iff_eq.1 he]
    exact h p hp

/-- A character of a message as it stands in a command. -/
def escapedChar (c : Char) : List Char :=
  if c = '%' then ['%', '2', '5']
  else if c = '\r' then ['%', '0', 'D']
  else if c = '\n' then ['%', '0', 'A']
  else [c]

theorem toList_escaped (s : String) :
    (Entry.escaped s).toList = s.toList.flatMap escapedChar := by
  unfold Entry.escaped Text.escapeWith
  rw [String.toList_ofList]
  congr 1
  funext c
  unfold escapedChar
  simp only [beq_iff_eq]
  split_ifs <;> rfl

/-- Decoding undoes the escaping of messages. -/
theorem decode_escaped (s : String) : decode messageCodes (Entry.escaped s).toList = s.toList := by
  rw [toList_escaped]
  induction s.toList with
  | nil => rfl
  | cons c rest ih =>
    rw [List.flatMap_cons]
    by_cases hp : c = '%'
    · subst hp
      exact congrArg ('%' :: ·) ih
    by_cases hr : c = '\r'
    · subst hr
      exact congrArg ('\r' :: ·) ih
    by_cases hn : c = '\n'
    · subst hn
      exact congrArg ('\n' :: ·) ih
    have hc : escapedChar c = [c] := by simp [escapedChar, hp, hr, hn]
    rw [hc, List.singleton_append, decode_cons_of_ne hp, ih]

/-! ## Properties -/

/-- A text cut at its first two colons. -/
def atColons? : List Char → Option (List Char × List Char)
  | ':' :: ':' :: rest => some ([], rest)
  | c :: rest => (atColons? rest).map fun p => (c :: p.1, p.2)
  | [] => none

/-- The colons are those in front of which there are none. -/
theorem atColons?_eq_some_iff {s p r : List Char} : atColons? s = some (p, r) ↔
    s = p ++ ':' :: ':' :: r ∧ ¬ [':', ':'] <:+: p ++ [':'] := by
  constructor
  · intro h
    fun_induction atColons? s generalizing p with
    | case1 rest =>
      obtain ⟨rfl, rfl⟩ := Prod.mk.inj (Option.some.inj h)
      exact ⟨rfl, by decide⟩
    | case2 c rest hne ih =>
      obtain ⟨⟨p', r'⟩, hp, he⟩ := Option.map_eq_some_iff.1 h
      obtain ⟨rfl, rfl⟩ := Prod.mk.inj he
      obtain ⟨hrest, hno⟩ := ih hp
      refine ⟨congrArg (c :: ·) hrest, fun hinf => ?_⟩
      rcases List.infix_cons_iff.1 hinf with hpre | hinf
      · obtain ⟨more, hmore⟩ := hpre
        obtain ⟨hc, hmore⟩ := List.cons.inj hmore
        cases p' with
        | nil => exact hne _ hc.symm hrest
        | cons d p' =>
          obtain ⟨rfl, -⟩ := List.cons.inj hmore
          exact hne _ hc.symm hrest
      · exact hno hinf
    | case3 => exact nomatch h
  · rintro ⟨rfl, h⟩
    induction p with
    | nil => rfl
    | cons c p ih =>
      have hrest : atColons? (p ++ ':' :: ':' :: r) = some (p, r) :=
        ih fun hinf => h (List.infix_cons hinf)
      rw [List.cons_append, atColons?, hrest]
      · rfl
      · rintro more rfl hmore
        cases p with
        | nil => exact h (List.infix_refl _)
        | cons d p =>
          obtain ⟨rfl, -⟩ := List.cons.inj hmore
          exact h (List.prefix_append [':', ':'] (p ++ [':'])).isInfix

/-- What is cut at the first two colons ends no later than at any others. -/
theorem prefix_of_atColons? {s t p r : List Char}
    (h : atColons? (s ++ ':' :: ':' :: t) = some (p, r)) : p <+: s := by
  obtain ⟨he, hno⟩ := atColons?_eq_some_iff.1 h
  have hs : s ++ [':', ':'] <+: p ++ ':' :: ':' :: r := ⟨t, by rw [← he]; simp⟩
  have hp : p ++ [':'] <+: p ++ ':' :: ':' :: r := ⟨':' :: r, by simp⟩
  have hle : p.length ≤ s.length := by
    by_contra hlt
    have hpre := List.prefix_of_prefix_length_le hs hp (by simp; omega)
    exact hno ((List.suffix_append s [':', ':']).isInfix.trans hpre.isInfix)
  exact List.prefix_of_prefix_length_le (List.prefix_append p _) (he ▸ List.prefix_append s _) hle

/-- A property: a name up to the first equals sign, and its value with codes decoded. -/
def readProperty (s : List Char) : String × String :=
  (String.ofList (s.takeWhile (· != '=')),
    String.ofList (decode codes ((s.dropWhile (· != '=')).drop 1)))

/-- Properties with a comma between neighbours. -/
def readProperties (s : List Char) : List (String × String) :=
  (Text.pieces (· == ',') s).map readProperty

theorem readProperty_eq {name : List Char} (h : '=' ∉ name) (value : List Char) :
    readProperty (name ++ '=' :: value) =
      (String.ofList name, String.ofList (decode codes value)) := by
  have hname : ∀ c ∈ name, (c != '=') = true := by
    intro c hc
    rw [bne, Text.beq_false_of_notMem h c hc]
    rfl
  unfold readProperty
  rw [List.takeWhile_append_of_pos hname, List.dropWhile_append_of_pos hname]
  simp

/-- What is read from a beginning of a property is all of its value only when it is all of it. -/
theorem eq_of_readProperty {s name value : List Char} (h : s <+: name ++ '=' :: value)
    (hread : readProperty s = (String.ofList name, String.ofList value)) (hne : value ≠ []) :
    s = name ++ '=' :: value := by
  obtain ⟨hname, hvalue⟩ := Prod.mk.inj hread
  rw [String.ofList_inj] at hname hvalue
  have hle := length_decode_le codes ((s.dropWhile (· != '=')).drop 1)
  have hlen := congrArg List.length (List.takeWhile_append_dropWhile (p := (· != '=')) (l := s))
  have hpos := List.length_pos_iff.2 hne
  refine h.eq_of_length_le ?_
  rw [hvalue, List.length_drop] at hle
  rw [List.length_append, hname] at hlen
  rw [List.length_append, List.length_cons]
  omega

theorem readProperties_append {s : List Char} (h : ',' ∉ s) (rest : List Char) :
    readProperties (s ++ ',' :: rest) = readProperty s :: readProperties rest := by
  unfold readProperties
  rw [Text.pieces_append_of_notMem h, List.map_cons]

theorem readProperties_of_notMem {s : List Char} (h : ',' ∉ s) :
    readProperties s = [readProperty s] := by
  unfold readProperties
  rw [Text.pieces_of_notMem h, List.map_singleton]

/-- The first property ends in front of the first comma. -/
theorem exists_first_property {s : List Char} {x : String × String} {more : List (String × String)}
    (h : readProperties s = x :: more) : ∃ first, first <+: s ∧ ',' ∉ first ∧
      readProperty first = x := by
  obtain ⟨first, rest, hpieces⟩ := List.exists_cons_of_ne_nil (Text.pieces_ne_nil (· == ',') s)
  unfold readProperties at h
  rw [hpieces, List.map_cons] at h
  refine ⟨first, Text.prefix_of_pieces hpieces, fun hmem => ?_, (List.cons.inj h).1⟩
  have hsep := Text.sep_of_mem_pieces (hpieces ▸ List.mem_cons_self) ',' hmem
  exact absurd hsep (by decide)

/-! ## Lines -/

/-- Whether a character ends a line. -/
def isLineEnd (c : Char) : Bool := c == '\n' || c == '\r'

/-- A text that ends no line. -/
def OneLine (s : List Char) : Prop := '\n' ∉ s ∧ '\r' ∉ s

instance (s : List Char) : Decidable (OneLine s) :=
  inferInstanceAs (Decidable ('\n' ∉ s ∧ '\r' ∉ s))

theorem oneLine_iff {s : List Char} : OneLine s ↔ ∀ c ∈ s, isLineEnd c = false := by
  unfold OneLine isLineEnd
  constructor
  · rintro ⟨hfeed, hreturn⟩ c hc
    rw [Bool.or_eq_false_iff]
    exact ⟨Text.beq_false_of_notMem hfeed c hc, Text.beq_false_of_notMem hreturn c hc⟩
  · intro h
    exact ⟨fun hmem => absurd (h _ hmem) (by decide), fun hmem => absurd (h _ hmem) (by decide)⟩

theorem oneLine_append {s t : List Char} : OneLine (s ++ t) ↔ OneLine s ∧ OneLine t := by
  simp only [oneLine_iff, List.forall_mem_append]

theorem oneLine_cons {c : Char} {s : List Char} :
    OneLine (c :: s) ↔ isLineEnd c = false ∧ OneLine s := by
  simp only [oneLine_iff, List.forall_mem_cons]

theorem oneLine_escapedChar (d : Char) : OneLine (escapedChar d) := by
  unfold escapedChar
  split_ifs with hp hr hn
  · decide
  · decide
  · decide
  · exact ⟨fun h => hn (List.mem_singleton.1 h).symm, fun h => hr (List.mem_singleton.1 h).symm⟩

theorem oneLine_escaped (s : String) : OneLine (Entry.escaped s).toList := by
  rw [toList_escaped, oneLine_iff]
  intro c hc
  obtain ⟨d, -, hc⟩ := List.mem_flatMap.1 hc
  exact oneLine_iff.1 (oneLine_escapedChar d) c hc

/-- The lines of an output; those without contents mean nothing. -/
def outputLines (s : List Char) : List (List Char) :=
  (Text.pieces isLineEnd s).filter (!·.isEmpty)

theorem outputLines_append {c : Char} (h : isLineEnd c = true) (s t : List Char) :
    outputLines (s ++ c :: t) = outputLines s ++ outputLines t := by
  unfold outputLines
  rw [Text.pieces_append h, List.filter_append]

theorem outputLines_ne_nil {s : List Char} {c : Char} (h : isLineEnd c = false) (hc : c ∈ s) :
    outputLines s ≠ [] := by
  obtain ⟨p, hp, hc⟩ := (Text.mem_iff_mem_pieces isLineEnd h s).1 hc
  exact List.ne_nil_of_mem
    (List.mem_filter.2 ⟨hp, by simpa using List.ne_nil_of_mem hc⟩)

theorem OneLine.outputLines_eq {s : List Char} (h : OneLine s) (hs : s ≠ []) :
    outputLines s = [s] := by
  unfold outputLines
  rw [Text.pieces_of_forall (oneLine_iff.1 h), List.filter_cons_of_pos (by simpa using hs)]
  rfl

/-- The command in a line. -/
def ofLine? (line : List Char) : Option Command :=
  (Text.after? "::error ".toList line).bind fun rest =>
    (atColons? rest).map fun p =>
      ⟨readProperties p.1, String.ofList (decode messageCodes p.2)⟩

/-- The commands in an output, line by line. -/
def ofOutput (out : String) : List (Option Command) := (outputLines out.toList).map ofLine?

/-! ## File names -/

/-- A file name that means nothing else in a command: without commas, neighbouring colons, codes and
ends of lines. -/
structure Plain (file : String) : Prop where
  comma : ',' ∉ file.toList
  colons : ¬ [':', ':'] <:+: file.toList
  code : ∀ p ∈ codes, ¬ p.1 <:+: file.toList
  oneLine : OneLine file.toList

theorem plain_empty : Plain "" where
  comma := by simp
  colons := by simp
  code := by decide
  oneLine := by decide

end Command

/-! ## Entries -/

theorem notMem_repr {c : Char} (hdash : c ≠ '-') (hdigit : c.isDigit = false) (n : Int) :
    c ∉ n.repr.toList := by
  have hnat : ∀ m : Nat, c ∉ m.repr.toList := by
    intro m hc
    rw [Nat.repr_eq_ofList_toDigits, String.toList_ofList] at hc
    have htrue := Nat.isDigit_of_mem_toDigits (by decide) (by decide) hc
    exact Bool.false_ne_true (hdigit.symm.trans htrue)
  cases n with
  | ofNat m => exact hnat m
  | negSucc m =>
    unfold Int.repr
    dsimp only
    rw [String.toList_append, List.mem_append, not_or]
    refine ⟨fun hc => hdash (List.mem_singleton.1 hc), hnat _⟩

namespace Entry

/-- Line and column in the properties of a command. -/
def position (e : Entry) : List (String × String) :=
  ("line", toString (e.line.getD 1)) :: (e.column.map fun n => ("col", toString n)).toList

/-- The text of line and column. -/
def positionText (e : Entry) : List Char :=
  "line".toList ++ '=' :: ((toString (e.line.getD 1)).toList ++
    match e.column with
    | some n => ',' :: ("col".toList ++ '=' :: (toString n).toList)
    | none => [])

/-- The text between the colons of a command. -/
def propertiesText (file : String) (e : Entry) : List Char :=
  "file".toList ++ '=' :: ((e.file.getD file).toList ++ ',' :: e.positionText)

/-- The command for an entry of a file. -/
def command (file : String) (e : Entry) : Command where
  properties := ("file", e.file.getD file) :: e.position
  message := e.message

theorem annotation_toList (file : String) (e : Entry) : (e.annotation file).toList =
    "::error ".toList ++ (e.propertiesText file ++ ':' :: ':' :: (escaped e.message).toList) := by
  rw [annotation_eq]
  unfold properties propertiesText positionText
  cases e.column with
  | none => simp
  | some n => simp

theorem notMem_positionText (e : Entry) {c : Char} (hc : c ∉ "line=,col=".toList)
    (hdash : c ≠ '-') (hdigit : c.isDigit = false) : c ∉ e.positionText := by
  have hn := notMem_repr hdash hdigit
  unfold positionText
  cases e.column with
  | none =>
    simp at hc
    simp [hc, hn]
  | some n =>
    simp at hc
    simp [hc, hn]

theorem readProperties_positionText (e : Entry) :
    Command.readProperties e.positionText = e.position := by
  have hcomma : ∀ n : Int, ',' ∉ n.repr.toList := notMem_repr (by decide) (by decide)
  have hpercent : ∀ n : Int, '%' ∉ n.repr.toList := notMem_repr (by decide) (by decide)
  have hread : ∀ (name : String) (n : Int), '=' ∉ name.toList →
      Command.readProperty (name.toList ++ '=' :: (toString n).toList) = (name, toString n) := by
    intro name n hname
    rw [Command.readProperty_eq hname, Int.toString_eq_repr,
      Command.decode_of_notMem (hpercent n), String.ofList_toList, String.ofList_toList]
  have hline : ',' ∉ "line".toList ++ '=' :: (toString (e.line.getD 1)).toList := by
    simp [hcomma]
  unfold positionText position
  cases e.column with
  | none =>
    rw [List.append_nil, Command.readProperties_of_notMem hline, hread _ _ (by decide)]
    rfl
  | some n =>
    have hcol : ',' ∉ "col".toList ++ '=' :: (toString n).toList := by simp [hcomma]
    dsimp only
    rw [← List.cons_append, ← List.append_assoc, Command.readProperties_append hline,
      Command.readProperties_of_notMem hcol, hread _ _ (by decide),
      hread _ _ (by decide)]
    rfl

theorem oneLine_positionText (e : Entry) : Command.OneLine e.positionText :=
  ⟨e.notMem_positionText (by decide) (by decide) (by decide),
    e.notMem_positionText (by decide) (by decide) (by decide)⟩

/-- A command is one line when the file name is. -/
theorem annotation_oneLine {file : String} {e : Entry}
    (h : Command.OneLine (e.file.getD file).toList) :
    Command.OneLine (e.annotation file).toList := by
  rw [annotation_toList]
  unfold propertiesText
  simp only [Command.oneLine_append, Command.oneLine_cons]
  exact ⟨by decide, ⟨by decide, rfl, h, rfl, e.oneLine_positionText⟩, rfl, rfl,
    Command.oneLine_escaped e.message⟩

theorem annotation_outputLines {file : String} {e : Entry}
    (h : Command.OneLine (e.file.getD file).toList) :
    Command.outputLines (e.annotation file ++ "\n").toList = [(e.annotation file).toList] := by
  have hne : (e.annotation file).toList ≠ [] := by
    rw [annotation_toList]
    exact List.append_ne_nil_of_left_ne_nil (by decide) _
  have hline := (annotation_oneLine h).outputLines_eq hne
  have hend := Command.outputLines_append (c := '\n') rfl (e.annotation file).toList []
  rw [hline] at hend
  rw [String.toList_append]
  exact hend

/-- In the properties colons stand side by side when they do in the file name. -/
theorem colons_propertiesText {file : String} {e : Entry}
    (h : ¬ [':', ':'] <:+: (e.file.getD file).toList) :
    ¬ [':', ':'] <:+: e.propertiesText file ++ [':'] := by
  have hposition : ¬ [':', ':'] <:+: e.positionText ++ [':'] := by
    intro hinf
    have hcount := hinf.sublist.count_le ':'
    have hnone := List.count_eq_zero.2
      (e.notMem_positionText (c := ':') (by decide) (by decide) (by decide))
    rw [List.count_append, hnone] at hcount
    exact absurd hcount (by decide)
  have hsep : ∀ c, c ≠ ':' → c ∉ [':', ':'] := by
    intro c hc
    simp [hc]
  unfold propertiesText
  rw [List.append_assoc, List.cons_append, List.append_assoc, List.cons_append,
    Text.infix_append_cons_iff (hsep '=' (by decide)) (List.cons_ne_nil _ _),
    Text.infix_append_cons_iff (hsep ',' (by decide)) (List.cons_ne_nil _ _)]
  rintro (hinf | hinf | hinf)
  · revert hinf
    decide
  · exact h hinf
  · exact hposition hinf

/-- The message is read as it was printed, unless the file name ends the line or the properties. -/
theorem annotation_ofOutput {file : String} {e : Entry}
    (hline : Command.OneLine (e.file.getD file).toList)
    (hcolons : ¬ [':', ':'] <:+: (e.file.getD file).toList) :
    Command.ofOutput (e.annotation file ++ "\n") =
      [some ⟨Command.readProperties (e.propertiesText file), e.message⟩] := by
  have hcut : Command.atColons? (e.propertiesText file ++
      ':' :: ':' :: (escaped e.message).toList) =
        some (e.propertiesText file, (escaped e.message).toList) :=
    Command.atColons?_eq_some_iff.2 ⟨rfl, colons_propertiesText hcolons⟩
  unfold Command.ofOutput
  rw [annotation_outputLines hline, List.map_singleton, annotation_toList]
  unfold Command.ofLine?
  rw [Text.after?_append, Option.bind_some, hcut, Option.map_some, Command.decode_escaped,
    String.ofList_toList]

theorem readProperties_propertiesText {file : String} {e : Entry}
    (h : Command.Plain (e.file.getD file)) :
    Command.readProperties (e.propertiesText file) = ("file", e.file.getD file) :: e.position := by
  have hcomma : ',' ∉ "file".toList ++ '=' :: (e.file.getD file).toList := by
    simp [h.comma]
  unfold propertiesText
  rw [← List.cons_append, ← List.append_assoc, Command.readProperties_append hcomma,
    Command.readProperty_eq (by decide), Command.decode_codes_eq_self_iff.2 h.code,
    readProperties_positionText, String.ofList_toList, String.ofList_toList]

/-- A file name that ends a line makes two of the command. -/
theorem length_outputLines {file : String} {e : Entry} {c : Char} (h : Command.isLineEnd c = true)
    (hc : c ∈ (e.file.getD file).toList) :
    2 ≤ (Command.outputLines (e.annotation file ++ "\n").toList).length := by
  obtain ⟨a, b, hab⟩ := List.append_of_mem hc
  have hsplit : (e.annotation file ++ "\n").toList = ("::error file=".toList ++ a) ++ c ::
      (b ++ ',' :: (e.positionText ++ ':' :: ':' :: ((escaped e.message).toList ++ ['\n']))) := by
    rw [String.toList_append, annotation_toList]
    unfold propertiesText
    rw [hab]
    simp
  have hfront : Command.outputLines ("::error file=".toList ++ a) ≠ [] :=
    Command.outputLines_ne_nil (c := ':') rfl (by simp)
  have hback : Command.outputLines (b ++ ',' :: (e.positionText ++
      ':' :: ':' :: ((escaped e.message).toList ++ ['\n']))) ≠ [] :=
    Command.outputLines_ne_nil (c := ',') rfl (by simp)
  rw [hsplit, Command.outputLines_append h, List.length_append]
  have hone := List.length_pos_iff.2 hfront
  have htwo := List.length_pos_iff.2 hback
  omega

/-- What is in front of the colons is read as it was printed only when the file name is plain. -/
theorem plain_of_readProperties {file : String} {e : Entry} {p r : List Char}
    (hcolons : Command.atColons? (e.propertiesText file ++
      ':' :: ':' :: (escaped e.message).toList) = some (p, r))
    (hread : Command.readProperties p = ("file", e.file.getD file) :: e.position)
    (hline : Command.OneLine (e.file.getD file).toList) :
    Command.Plain (e.file.getD file) := by
  by_cases hempty : e.file.getD file = ""
  · rw [hempty]
    exact Command.plain_empty
  have hne : (e.file.getD file).toList ≠ [] := by simpa using hempty
  have hp : p <+: e.propertiesText file := Command.prefix_of_atColons? hcolons
  obtain ⟨first, hfirst, hcomma, hvalue⟩ := Command.exists_first_property hread
  have hfile : first <+: "file".toList ++ '=' :: (e.file.getD file).toList := by
    have htext := hfirst.trans hp
    unfold propertiesText at htext
    rw [← List.cons_append, ← List.append_assoc] at htext
    exact Text.prefix_of_notMem htext hcomma
  -- the value of the first property is the file name only when all of the name is read
  have hall : first = "file".toList ++ '=' :: (e.file.getD file).toList :=
    Command.eq_of_readProperty hfile (by simpa using hvalue) hne
  have hpart : (e.file.getD file).toList <:+: first := by
    rw [hall]
    exact ((List.suffix_cons '=' _).trans (List.suffix_append _ _)).isInfix
  have hdecode : Command.decode Command.codes (e.file.getD file).toList =
      (e.file.getD file).toList := by
    rw [hall, Command.readProperty_eq (by decide)] at hvalue
    rw [← String.ofList_inj, String.ofList_toList]
    exact congrArg Prod.snd hvalue
  refine ⟨fun hmem => hcomma (hpart.subset hmem), fun hinf => ?_,
    Command.decode_codes_eq_self_iff.1 hdecode, hline⟩
  exact (Command.atColons?_eq_some_iff.1 hcolons).2
    ((hinf.trans (hpart.trans hfirst.isInfix)).trans (List.prefix_append p _).isInfix)

theorem plain_of_ofOutput {file : String} {e : Entry}
    (h : Command.ofOutput (e.annotation file ++ "\n") = [some (e.command file)]) :
    Command.Plain (e.file.getD file) := by
  have hline : Command.OneLine (e.file.getD file).toList := by
    rw [Command.oneLine_iff]
    intro c hc
    by_contra hne
    have hle := length_outputLines (by simpa using hne) hc
    have hone := congrArg List.length h
    rw [Command.ofOutput, List.length_map, List.length_singleton] at hone
    omega
  unfold Command.ofOutput at h
  rw [annotation_outputLines hline, List.map_singleton, annotation_toList] at h
  unfold Command.ofLine? at h
  rw [Text.after?_append, Option.bind_some] at h
  obtain ⟨⟨p, r⟩, hcolons, hcommand⟩ := Option.map_eq_some_iff.1 (List.head_eq_of_cons_eq h)
  exact plain_of_readProperties hcolons (congrArg Command.properties hcommand) hline

/-- A command is read as it was meant when its file name is plain, and only then. -/
theorem annotation_ofOutput_iff {file : String} {e : Entry} :
    Command.ofOutput (e.annotation file ++ "\n") = [some (e.command file)] ↔
      Command.Plain (e.file.getD file) := by
  refine ⟨plain_of_ofOutput, fun h => ?_⟩
  rw [annotation_ofOutput h.oneLine h.colons, readProperties_propertiesText h]
  rfl

end Entry

end ProtoCheck
