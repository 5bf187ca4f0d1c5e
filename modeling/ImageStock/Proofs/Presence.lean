import Mathlib.Logic.Relation
import ImageStock.Proofs.Engine
import ImageStock.Proofs.Text.Utf8

/-! What an engine prints about an image. Main statement: its query finds the image exactly if
something printed is no white space, where bytes that cannot be decoded are something, and white
space around and within a text that is printed makes no difference. -/

namespace ImageStock

namespace Text

/-- The second text is the first with white space put in at one place. -/
inductive Widened : String → String → Prop where
  | insert (before gap after : String) (blank : allBlank gap = true) :
      Widened (before ++ after) (before ++ gap ++ after)

def Respaced : String → String → Prop := Relation.EqvGen Widened

variable {s t : String}

theorem allBlank_of_widened (widened : Widened s t) : allBlank s = allBlank t := by
  obtain ⟨before, gap, after, blank⟩ := widened
  rw [allBlank_append, allBlank_append, allBlank_append, blank, Bool.and_true]

theorem allBlank_of_respaced (respaced : Respaced s t) : allBlank s = allBlank t := by
  induction respaced with
  | rel s t widened => exact allBlank_of_widened widened
  | refl s => rfl
  | symm s t _ ih => exact ih.symm
  | trans s t u _ _ first second => exact first.trans second

end Text

namespace Engine

open Text.Utf8 (encode decodeLossy)

theorem listsImages_encode (text : String) : listsImages (encode text) = ! Text.allBlank text := by
  rw [listsImages_eq, Text.Utf8.decodeLossy_encode, Text.allBlank]

theorem listsImages_iff (output : List UInt8) :
    listsImages output = true ↔
      (¬ ∃ text, encode text = output) ∨ ∃ c ∈ decodeLossy output, Text.isBlank c = false := by
  rw [listsImages_iff_exists]
  constructor
  · exact Or.inr
  · rintro (broken | written)
    · exact ⟨'\uFFFD', Text.Utf8.replacement_mem_decodeLossy broken, by decide⟩
    · exact written

/-- A no-break space is white space, and one that lacks its second byte is not. -/
example : listsImages [0x0A, 0xC2, 0xA0] = false ∧ listsImages [0x0A, 0xC2] = true := by
  decide +kernel

section Prints

variable {σ : Type}

def Prints (e : Engine) (image : Image) (m : Machine shell σ) (s : σ) (output : List UInt8) :
    Prop :=
  ∃ errors, (m.answer (e.queryCommand image) s).1 = .ok ⟨processStatus 0, output, errors⟩

def printing (output : List UInt8) : Machine shell Unit where
  answer _ s := (.ok ⟨processStatus 0, output, []⟩, s)

variable {e : Engine} {image : Image} {m : Machine shell σ} {s : σ} {output : List UInt8}

theorem query_of_prints (prints : e.Prints image m s output) :
    ((e.query image).run m s).value = .ok (listsImages output) := by
  obtain ⟨errors, given⟩ := prints
  obtain ⟨-, value, -⟩ := Run.silent_eq (e.answer_silent m (.query image) s)
  rw [answer, commandFor, given] at value
  exact value

/-- A query that ends well finds the image exactly if its output is no text or has a character in
it that is no white space. To look at the output line by line comes to the same as to look at all
of it at once, and a text printed with other white space gets the same answer. -/
theorem query_reads_past_blanks (prints : e.Prints image m s output) :
    (((e.query image).run m s).value = .ok true ↔
      (¬ ∃ text, encode text = output) ∨ ∃ c ∈ decodeLossy output, Text.isBlank c = false) ∧
    ((e.query image).run m s).value =
      .ok ((Text.lines (decodeLossy output)).any fun line => ! (Text.trim line).isEmpty) ∧
    (Text.lines (decodeLossy output)).any (fun line => ! (Text.trim line).isEmpty) =
      ! (decodeLossy output).all Text.isBlank ∧
    ∀ text, encode text = output → decodeLossy output = text.toList ∧
      ∀ text', Text.Respaced text text' →
        ∀ {τ : Type} (n : Machine shell τ) (t : τ), e.Prints image n t (encode text') →
          ((e.query image).run n t).value = ((e.query image).run m s).value := by
  have value := query_of_prints prints
  refine ⟨?_, value, Text.any_lines (decodeLossy output), ?_⟩
  · rw [value, Except.ok.injEq]
    exact listsImages_iff output
  · rintro text rfl
    refine ⟨Text.Utf8.decodeLossy_encode text, ?_⟩
    intro text' respaced τ n t respacedPrints
    rw [value, query_of_prints respacedPrints, listsImages_encode, listsImages_encode,
      Text.allBlank_of_respaced respaced]

theorem query_reads_past_blanks_lines :
    Prints ⟨"docker", []⟩ ⟨"redis", by decide⟩ (printing (encode "4f1c")) () (encode "4f1c") ∧
    Text.Respaced "4f1c" "\r\n\u00A04f\u20031c\r" ∧
    ((query ⟨"docker", []⟩ ⟨"redis", by decide⟩).run
      (printing (encode "\r\n\u00A04f\u20031c\r")) ()).value = .ok true := by
  have first : Text.Respaced "4f1c" "\r\n\u00A04f1c" :=
    .rel _ _ (.insert "" "\r\n\u00A0" "4f1c" (by decide))
  have middle : Text.Respaced "\r\n\u00A04f1c" "\r\n\u00A04f\u20031c" :=
    .rel _ _ (.insert "\r\n\u00A04f" "\u2003" "1c" (by decide))
  have last : Text.Respaced "\r\n\u00A04f\u20031c" "\r\n\u00A04f\u20031c\r" :=
    .rel _ _ (.insert "\r\n\u00A04f\u20031c" "\r" "" (by decide))
  have respaced := first.trans _ _ _ (middle.trans _ _ _ last)
  have prints : Prints ⟨"docker", []⟩ ⟨"redis", by decide⟩ (printing (encode "4f1c")) ()
      (encode "4f1c") := ⟨[], rfl⟩
  obtain ⟨found, -, -, texts⟩ := query_reads_past_blanks prints
  obtain ⟨decoded, same⟩ := texts "4f1c" rfl
  refine ⟨prints, respaced, ?_⟩
  rw [same _ respaced (printing (encode "\r\n\u00A04f\u20031c\r")) () ⟨[], rfl⟩, found, decoded]
  exact .inr ⟨'4', by decide, by decide⟩

end Prints

end Engine

end ImageStock
