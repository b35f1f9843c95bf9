import ProtoCheck.Proofs.Header
import ProtoCheck.Proofs.Text.Decoding

/-!
# The header of a file

A file is read with replacement for its header, and strictly for its contents.

* `exists_line_of_extract` : where the line stands that repeats a directive;
* `extract_decodeLossy` : malformed bytes move no line, and where there are none both readings of a
  file are the same text.
-/

namespace ProtoCheck.Header

open Utf8

/-- The line of bytes that gives a directive again: as many line feeds are in front of it as the
failure tells. -/
theorem exists_line_of_extract {bs : Bytes} {d : Directive} {i : Nat}
    (h : extract (decodeLossy bs) = .error (.duplicate d i)) :
    ∃ before line after value, bs = before ++ line ++ after ∧ IsLine before line after ∧
      before.count 0x0A = i ∧ Text.words (decodeLossy line) = [['#'], d.key, value] := by
  obtain ⟨⟨⟨v, -, text, htext, hwords⟩, -⟩, -⟩ := extract_eq_iff.1 h
  rw [lines_decodeLossy, List.getElem?_map, Option.map_eq_some_iff] at htext
  obtain ⟨line, hline, rfl⟩ := htext
  obtain ⟨before, after, hbs, hl, hcount⟩ := exists_of_byteLines hline
  exact ⟨before, line, after, v.toList, hbs, hl, hcount, hwords⟩

/-- **Malformed bytes move no line.** Reading with replacement puts one character for each longest
beginning of none, and its lines are the lines of the bytes, each read by itself; so a repeated
directive stands behind as many line feeds as its failure tells. Strict reading succeeds on the
bytes of texts, where both read the same. -/
theorem extract_decodeLossy (bs : Bytes) :
    (∀ text, decodeLossy bs = text ↔ Replaced bs text) ∧
    Text.lines (decodeLossy bs) = (byteLines bs).map decodeLossy ∧
    (∀ d i, extract (decodeLossy bs) = .error (.duplicate d i) →
      ∃ before line after value, bs = before ++ line ++ after ∧ IsLine before line after ∧
        before.count 0x0A = i ∧ Text.words (decodeLossy line) = [['#'], d.key, value]) ∧
    (∀ text, decode? bs = .ok text ↔ bs = encode text) ∧
    (∀ text, decode? bs = .ok text → decodeLossy bs = text) ∧
    ∀ text, extract (decodeLossy (encode text)) = extract text := by
  refine ⟨fun text => decodeLossy_eq_iff, lines_decodeLossy bs, fun d i => exists_line_of_extract,
    fun text => decode?_eq_ok_iff, fun text => decodeLossy_of_decode?, fun text => ?_⟩
  have hread : decode? (encode text) = .ok text := decode?_eq_ok_iff.2 rfl
  rw [decodeLossy_of_decode? hread]

end ProtoCheck.Header
