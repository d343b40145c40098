import PipelineAdvisor.Proofs.Json.Numbers
import PipelineAdvisor.Proofs.Json.Stretches
import PipelineAdvisor.Yaml.Image

/-!
The scalars of a node: its keys, values and tags as they are printed. A node whose keys can all be
printed has an image, and a search in the image sees the stretches of its scalars and nothing else.
-/

namespace PipelineAdvisor

namespace Json

theorem visible_of_isNumberChar {c : Char} (number : isNumberChar c = true) : ¬c.toNat < 0x20 := by
  simp only [isNumberChar, Bool.or_eq_true, beq_iff_eq] at number
  rcases number with ((((digit | rfl) | rfl) | rfl) | rfl) | rfl
  · simp only [Char.isDigit, Bool.and_eq_true, decide_eq_true_eq] at digit
    have low : '0'.toNat ≤ c.toNat := digit.1
    have zero : '0'.toNat = 48 := rfl
    omega
  all_goals decide

end Json

namespace Yaml.Node

def isPlainKey : Node → Bool
  | .string _ | .bool _ => true
  | .number value => value.isFinite
  | _ => false

mutual

def hasPlainKeys : Node → Bool
  | .sequence items => itemsHavePlainKeys items
  | .mapping entries => entriesHavePlainKeys entries
  | .tagged _ content => hasPlainKeys content
  | _ => true

def itemsHavePlainKeys : List Node → Bool
  | [] => true
  | item :: rest => hasPlainKeys item && itemsHavePlainKeys rest

def entriesHavePlainKeys : List (Node × Node) → Bool
  | [] => true
  | (key, value) :: rest => isPlainKey key && hasPlainKeys value && entriesHavePlainKeys rest

end

mutual

/-- The keys, values and tags of a node, numbers and truth values as they are printed. -/
def scalars : Node → List (List Char)
  | .null => ["null".toList]
  | .bool value => [if value then "true".toList else "false".toList]
  | .number value => [(numberImage value).compact]
  | .string text => [text.toList]
  | .sequence items => itemScalars items
  | .mapping entries => entryScalars entries
  | .tagged tag content => ('!' :: tag.toList) :: scalars content

def itemScalars : List Node → List (List Char)
  | [] => []
  | item :: rest => scalars item ++ itemScalars rest

def entryScalars : List (Node × Node) → List (List Char)
  | [] => []
  | (key, value) :: rest => scalars key ++ scalars value ++ entryScalars rest

end

theorem memberName?_of_isPlainKey {key : Node} (plain : key.isPlainKey = true) :
    ∃ name, memberName? key = some name ∧ scalars key = [name.toList] := by
  cases key with
  | string text => exact ⟨text, rfl, by rw [scalars]⟩
  | bool value => cases value <;> exact ⟨_, rfl, by simp [scalars]⟩
  | number value =>
      cases value with
      | integer value =>
          exact ⟨_, rfl, by rw [scalars, numberImage, Json.compact, String.toList_ofList]⟩
      | float value =>
          have finite : value.isFinite = true := plain
          refine ⟨_, if_pos finite, ?_⟩
          rw [scalars, numberImage, if_pos finite, Json.compact, String.toList_ofList]
  | null | sequence _ | mapping _ | tagged _ _ => simp [isPlainKey] at plain

theorem numberImage_pieces (value : Number) :
    (numberImage value).pieces = Json.stretches (numberImage value).compact := by
  cases value with
  | integer value =>
      have digits := IsDigits.decimalDigits value.natAbs
      have visible : ∀ c ∈ Json.integerText value, ¬c.toNat < 0x20 := by
        intro c known
        apply Json.visible_of_isNumberChar
        rw [Json.integerText] at known
        split at known
        · rcases List.mem_cons.mp known with rfl | later
          · decide
          · exact digits.numberChars c later
        · exact digits.numberChars c known
      rw [numberImage, Json.compact, Json.pieces, Json.stretches_of_visible visible]
  | float value =>
      rw [numberImage]
      split
      · have visible : ∀ c ∈ Json.floatLayout.render value, ¬c.toNat < 0x20 := by
          intro c known
          exact Json.visible_of_isNumberChar ((Json.numberText_float ‹_›).chars c known)
        rw [Json.compact, Json.pieces, Json.stretches_of_visible visible]
      · rw [Json.compact, Json.pieces]
        decide

mutual

theorem image?_of_plainKeys : ∀ {node : Node}, node.hasPlainKeys = true →
    ∃ image, node.image? = some image ∧ image.pieces = (scalars node).flatMap Json.stretches
  | .null, _ => ⟨.null, by rw [image?], by rw [scalars, Json.pieces]; decide⟩
  | .bool value, _ => by
      refine ⟨.bool value, by rw [image?], ?_⟩
      rw [scalars, Json.pieces]
      cases value <;> decide
  | .number value, _ => by
      refine ⟨numberImage value, by rw [image?], ?_⟩
      rw [scalars, List.flatMap_singleton, numberImage_pieces]
  | .string text, _ => ⟨.string text, by rw [image?], by rw [scalars, Json.pieces]; simp⟩
  | .sequence items, plain => by
      rw [hasPlainKeys] at plain
      obtain ⟨images, imaged, seen⟩ := imageItems?_of_plainKeys plain
      exact ⟨.array images, by rw [image?, imaged]; rfl, by rw [Json.pieces, scalars, seen]⟩
  | .mapping entries, plain => by
      rw [hasPlainKeys] at plain
      obtain ⟨members, imaged, seen⟩ := imageMembers?_of_plainKeys plain
      exact ⟨.object members, by rw [image?, imaged]; rfl, by rw [Json.pieces, scalars, seen]⟩
  | .tagged tag content, plain => by
      rw [hasPlainKeys] at plain
      obtain ⟨image, imaged, seen⟩ := image?_of_plainKeys plain
      refine ⟨.object [("!" ++ tag, image)], by rw [image?, imaged]; rfl, ?_⟩
      simp [Json.pieces, Json.memberPieces, scalars, seen, String.toList_append]

theorem imageItems?_of_plainKeys : ∀ {items : List Node}, itemsHavePlainKeys items = true →
    ∃ images, imageItems? items = some images ∧
      Json.itemPieces images = (itemScalars items).flatMap Json.stretches
  | [], _ => ⟨[], by rw [imageItems?], by rw [Json.itemPieces, itemScalars, List.flatMap_nil]⟩
  | item :: rest, plain => by
      rw [itemsHavePlainKeys, Bool.and_eq_true] at plain
      obtain ⟨image, imaged, seen⟩ := image?_of_plainKeys plain.1
      obtain ⟨images, othersImaged, othersSeen⟩ := imageItems?_of_plainKeys plain.2
      refine ⟨image :: images, by simp [imageItems?, imaged, othersImaged], ?_⟩
      rw [Json.itemPieces, itemScalars, List.flatMap_append, seen, othersSeen]

theorem imageMembers?_of_plainKeys : ∀ {entries : List (Node × Node)},
    entriesHavePlainKeys entries = true →
    ∃ members, imageMembers? entries = some members ∧
      Json.memberPieces members = (entryScalars entries).flatMap Json.stretches
  | [], _ =>
      ⟨[], by rw [imageMembers?], by rw [Json.memberPieces, entryScalars, List.flatMap_nil]⟩
  | (key, value) :: rest, plain => by
      rw [entriesHavePlainKeys, Bool.and_eq_true, Bool.and_eq_true] at plain
      obtain ⟨⟨keyPlain, valuePlain⟩, restPlain⟩ := plain
      obtain ⟨name, named, keySeen⟩ := memberName?_of_isPlainKey keyPlain
      obtain ⟨image, imaged, seen⟩ := image?_of_plainKeys valuePlain
      obtain ⟨members, othersImaged, othersSeen⟩ := imageMembers?_of_plainKeys restPlain
      refine ⟨(name, image) :: members, by simp [imageMembers?, named, imaged, othersImaged], ?_⟩
      simp only [Json.memberPieces, entryScalars, keySeen, List.flatMap_append, seen, othersSeen,
        List.flatMap_singleton]

end

end Yaml.Node

end PipelineAdvisor
