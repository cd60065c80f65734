import PointRecords.Proofs.Colour.Wide
import PointRecords.Proofs.Json.NonFinite
import PointRecords.Proofs.Session.Runs

/-!
# Records made anew

A record is found again in its copy and in its JSON text, a colour also in its packed
number and in its widened channels.  So a record may be passed from slot to slot in any
of these ways and however often, and every slot on the way stands for it.  The one
exception is a point that is not finite: its JSON text is not read.
-/

namespace PointRecords

open Decimal Json

/-! ## Colours as JSON -/

namespace Colour

theorem isPlainName_colourShape (place : Place) :
    IsPlainName (colourShape.names.get place).toList := by
  cases place with
  | first => exact (isPlainName_singleton (by decide) : IsPlainName ['r'])
  | second => exact (isPlainName_singleton (by decide) : IsPlainName ['g'])
  | third => exact (isPlainName_singleton (by decide) : IsPlainName ['b'])

theorem channelAt_channelText (level : UInt8) (rest : List Char) :
    ChannelAt ((channelText level).toList ++ rest) level rest := by
  have nonneg : ¬ ((level.toNat : Int) < 0) := by omega
  have text : (channelText level).toList = (writtenDigits level.toNat).map digitChar := by
    rw [channelText, integerText, String.toList_ofList, integer, if_neg nonneg, natural_eq,
      Int.natAbs_natCast]
  rw [text]
  exact ⟨writtenDigits level.toNat, rfl, writtenDigits_ne_nil _, areDigits_writtenDigits _,
    noLeadingZero_writtenDigits _, value_writtenDigits _⟩

theorem read_toJson (colour : Colour) : ofJson colour.toJson = .ok colour := by
  have isText : RecordText colourShape.names ChannelAt colour.toJson.toList colour.toTriple := by
    refine recordText_write isPlainName_colourShape fun place rest => ?_
    cases place <;> exact channelAt_channelText _ rest
  rw [← fieldAt_colourShape] at isText
  rw [ofJson, (read_eq_ok_iff isNamed_colourShape).mpr isText]
  rfl

end Colour

/-- Every number of the record is a real number. -/
def Record.isFinite : Record → Bool
  | .point made => made.isFinite
  | .colour _ => true

namespace Session

/-! ## One record -/

theorem throughJson_eq (record : Record) :
    throughJson record = if record.isFinite then .ok record else .error nullFault := by
  cases record with
  | point made =>
      rw [throughJson, Point.ofJson_toJson_eq, Record.isFinite]
      split
      · rfl
      · rfl
  | colour made =>
      rw [throughJson, Colour.read_toJson]
      rfl

theorem throughPacked_eq (top : UInt8) (colour : Colour) : throughPacked top colour = colour := by
  have lower : (colour.toPacked ||| top.toUInt32 <<< 24).toNat % 2 ^ 24 =
      colour.toPacked.toNat % 2 ^ 24 := by
    rw [UInt32.toNat_or, Colour.toNat_shifted top (by decide), Nat.shiftLeft_eq,
      Nat.or_mod_two_pow]
    simp
  calc
    throughPacked top colour = Colour.ofPacked colour.toPacked :=
      Colour.ofPacked_eq_ofPacked_iff.mpr lower
    _ = colour := Colour.ofPacked_toPacked colour

theorem throughWide_zero (colour : Colour) : throughWide ⟨0, 0, 0⟩ colour = colour := by
  have zero : UInt16.ofInt 0 = 0 := rfl
  calc
    throughWide ⟨0, 0, 0⟩ colour = Colour.ofWide colour.toWide := by
      simp [throughWide, Triple.zip, Triple.map, zero]
    _ = colour := Colour.ofWide_toWide colour

/-! ## Chains of slots -/

/-- A way to make a record of the one in another slot. -/
inductive Passage
  | copy
  | exchange
  | repack (top : UInt8)
  | rescale

namespace Passage

def step (source target : String) : Passage → Step
  | .copy => .copy source target
  | .exchange => .exchange source target
  | .repack top => .repack source target top
  | .rescale => .rescale source target ⟨0, 0, 0⟩

/-- Records that can be made anew in this way. -/
def Admits : Passage → Record → Prop
  | .copy, _ => True
  | .exchange, record => record.isFinite = true
  | .repack _, record => ∃ colour, record = .colour colour
  | .rescale, record => ∃ colour, record = .colour colour

end Passage

/-- Records are made one of the other, each in a slot of its own name. -/
def passages : String → List (Passage × String) → List Step
  | _, [] => []
  | source, (way, target) :: rest => way.step source target :: passages target rest

section

variable {session : Session} {source target : String} {record : Record}

theorem step_exchange (held : session.find? source = some record) (target : String) :
    session.step (.exchange source target) =
      if record.isFinite then
        (.exchanged record.toJson (.ok record), session.store target record)
      else (.exchanged record.toJson (.error nullFault), session) := by
  simp only [Session.step, withRecord, held, throughJson_eq]
  cases record.isFinite with
  | true => rfl
  | false => rfl

theorem Passage.step_eq {way : Passage} (admits : way.Admits record)
    (held : session.find? source = some record) (target : String) :
    ∃ reply, session.step (way.step source target) = (reply, session.store target record) ∧
      reply.record? = some record := by
  cases way with
  | copy =>
      refine ⟨.slot record, ?_, rfl⟩
      simp only [Passage.step, Session.step, withRecord, held]
  | exchange => exact ⟨_, (step_exchange held target).trans (if_pos admits), rfl⟩
  | repack top =>
      obtain ⟨colour, rfl⟩ := admits
      refine ⟨.slot (.colour colour), ?_, rfl⟩
      simp only [Passage.step, Session.step, rework, withColour, held, throughPacked_eq]
  | rescale =>
      obtain ⟨colour, rfl⟩ := admits
      refine ⟨.slot (.colour colour), ?_, rfl⟩
      simp only [Passage.step, Session.step, rework, withColour, held, throughWide_zero]

/-- A record that is passed on from slot to slot is shown by every reply, and at the end
every slot on the way stands for it, besides those that did already. -/
theorem passages_keep {chain : List (Passage × String)}
    (admits : ∀ link ∈ chain, link.1.Admits record)
    (held : session.find? source = some record) :
    (∀ reply ∈ session.replies (passages source chain), reply.record? = some record) ∧
      ∀ name, session.find? name = some record ∨ name ∈ chain.map Prod.snd →
        (session.after (passages source chain)).find? name = some record := by
  induction chain generalizing session source with
  | nil => exact ⟨by simp [passages, replies], by simp [passages, after]⟩
  | cons link rest ih =>
      obtain ⟨way, target⟩ := link
      obtain ⟨admitsFirst, admitsRest⟩ := List.forall_mem_cons.mp admits
      obtain ⟨reply, step, isShown⟩ := Passage.step_eq admitsFirst held target
      have stored : (session.store target record).find? target = some record := by
        rw [find?_store, if_pos rfl]
      obtain ⟨shown, slots⟩ := ih admitsRest stored
      simp only [passages, replies, after, step]
      refine ⟨List.forall_mem_cons.mpr ⟨isShown, shown⟩, fun name before => slots name ?_⟩
      rw [find?_store]
      by_cases same : name = target
      · exact Or.inl (if_pos same)
      · rw [if_neg same]
        simpa [same] using before

end

end Session

end PointRecords
