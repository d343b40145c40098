import PipelineAdvisor.Proofs.Json.RoundTrip
import PipelineAdvisor.Proofs.Yaml.Scalars

/-!
What a node looks like as plain data, told case by case. Every node whose keys can be printed has such
an image, and if the whole numbers in it have 64 bits, the text of the image reads back as the image.
-/

namespace PipelineAdvisor.Yaml.Node

/-- The name that a key becomes: a string stays as it is, a number or a truth value is printed. -/
inductive Names : Node → String → Prop
  | string (text : String) : Names (.string text) text
  | yes : Names (.bool true) "true"
  | no : Names (.bool false) "false"
  | integer (value : Int) : Names (.number (.integer value)) (toString value)
  | float {value : Binary64} (finite : value.isFinite = true) :
      Names (.number (.float value)) (String.ofList (Json.float value).compact)

mutual

/-- What a node becomes as plain data; a tag becomes an object with one member. -/
inductive Shows : Node → Json → Prop
  | null : Shows .null .null
  | bool (value : Bool) : Shows (.bool value) (.bool value)
  | integer (value : Int) : Shows (.number (.integer value)) (.integer value)
  | float {value : Binary64} (finite : value.isFinite = true) :
      Shows (.number (.float value)) (.float value)
  | notFinite {value : Binary64} (notFinite : ¬value.isFinite = true) :
      Shows (.number (.float value)) .null
  | string (text : String) : Shows (.string text) (.string text)
  | sequence {items : List Node} {images : List Json} (each : ShowsItems items images) :
      Shows (.sequence items) (.array images)
  | mapping {entries : List (Node × Node)} {members : List (String × Json)}
      (each : ShowsMembers entries members) : Shows (.mapping entries) (.object members)
  | tagged {tag : String} {content : Node} {image : Json} (inside : Shows content image) :
      Shows (.tagged tag content) (.object [("!" ++ tag, image)])

inductive ShowsItems : List Node → List Json → Prop
  | nil : ShowsItems [] []
  | cons {item : Node} {image : Json} {items : List Node} {images : List Json}
      (first : Shows item image) (rest : ShowsItems items images) :
      ShowsItems (item :: items) (image :: images)

inductive ShowsMembers : List (Node × Node) → List (String × Json) → Prop
  | nil : ShowsMembers [] []
  | cons {key value : Node} {name : String} {image : Json} {entries : List (Node × Node)}
      {members : List (String × Json)} (named : Names key name) (first : Shows value image)
      (rest : ShowsMembers entries members) :
      ShowsMembers ((key, value) :: entries) ((name, image) :: members)

end

mutual

/-- Whether all whole numbers among the values have 64 bits, with or without sign, as those of documents
do. Keys do not matter, because they are printed. -/
def hasWords : Node → Bool
  | .number (.integer value) => -2 ^ 63 ≤ value && value < 2 ^ 64
  | .sequence items => itemsHaveWords items
  | .mapping entries => entriesHaveWords entries
  | .tagged _ content => hasWords content
  | _ => true

def itemsHaveWords : List Node → Bool
  | [] => true
  | item :: rest => hasWords item && itemsHaveWords rest

def entriesHaveWords : List (Node × Node) → Bool
  | [] => true
  | (_, value) :: rest => hasWords value && entriesHaveWords rest

end

theorem integerText_eq (value : Int) : Json.integerText value = (toString value).toList := by
  rw [Json.integerText, Int.toString_eq_repr, Int.repr_eq_if]
  split
  next below =>
    have size : (-value).toNat = value.natAbs := by omega
    rw [if_neg (by omega), String.toList_append, Nat.toList_repr, size]
    rfl
  next above =>
    have size : value.toNat = value.natAbs := by omega
    rw [if_pos (by omega), Nat.toList_repr, size]
    rfl

theorem names_of_memberName? {key : Node} {name : String} (named : memberName? key = some name) :
    Names key name := by
  cases key with
  | string text =>
      obtain rfl := Option.some.inj named
      exact .string text
  | bool value =>
      obtain rfl := Option.some.inj named
      cases value with
      | true => exact .yes
      | false => exact .no
  | number value =>
      cases value with
      | integer value =>
          obtain rfl := Option.some.inj named
          rw [integerText_eq, String.ofList_toList]
          exact .integer value
      | float value =>
          obtain ⟨finite, same⟩ := Option.ite_none_right_eq_some.mp named
          obtain rfl := Option.some.inj same
          have printed : (Json.float value).compact = Json.floatLayout.render value := by
            rw [Json.compact]
          rw [← printed]
          exact .float finite
  | null | sequence _ | mapping _ | tagged _ _ => cases named

theorem shows_numberImage (value : Number) : Shows (.number value) (numberImage value) := by
  cases value with
  | integer value => exact .integer value
  | float value =>
      by_cases finite : value.isFinite = true
      · rw [numberImage, if_pos finite]
        exact .float finite
      · rw [numberImage, if_neg finite]
        exact .notFinite finite

mutual

theorem shows_of_image? : ∀ {node : Node} {image : Json}, node.image? = some image →
    Shows node image
  | .null, image, imaged => by
      rw [image?] at imaged
      obtain rfl := Option.some.inj imaged
      exact .null
  | .bool value, image, imaged => by
      rw [image?] at imaged
      obtain rfl := Option.some.inj imaged
      exact .bool value
  | .number value, image, imaged => by
      rw [image?] at imaged
      obtain rfl := Option.some.inj imaged
      exact shows_numberImage value
  | .string text, image, imaged => by
      rw [image?] at imaged
      obtain rfl := Option.some.inj imaged
      exact .string text
  | .sequence items, image, imaged => by
      rw [image?] at imaged
      obtain ⟨images, itemsImaged, rfl⟩ := Option.map_eq_some_iff.mp imaged
      exact .sequence (showsItems_of_imageItems? itemsImaged)
  | .mapping entries, image, imaged => by
      rw [image?] at imaged
      obtain ⟨members, entriesImaged, rfl⟩ := Option.map_eq_some_iff.mp imaged
      exact .mapping (showsMembers_of_imageMembers? entriesImaged)
  | .tagged tag content, image, imaged => by
      rw [image?] at imaged
      obtain ⟨inner, contentImaged, rfl⟩ := Option.map_eq_some_iff.mp imaged
      exact .tagged (shows_of_image? contentImaged)

theorem showsItems_of_imageItems? : ∀ {items : List Node} {images : List Json},
    imageItems? items = some images → ShowsItems items images
  | [], images, imaged => by
      rw [imageItems?] at imaged
      obtain rfl := Option.some.inj imaged
      exact .nil
  | item :: rest, images, imaged => by
      simp only [imageItems?, Option.bind_eq_bind, Option.bind_eq_some_iff, Option.pure_def,
        Option.some.injEq] at imaged
      obtain ⟨image, itemImaged, others, restImaged, rfl⟩ := imaged
      exact .cons (shows_of_image? itemImaged) (showsItems_of_imageItems? restImaged)

theorem showsMembers_of_imageMembers? : ∀ {entries : List (Node × Node)}
    {members : List (String × Json)}, imageMembers? entries = some members →
    ShowsMembers entries members
  | [], members, imaged => by
      rw [imageMembers?] at imaged
      obtain rfl := Option.some.inj imaged
      exact .nil
  | (key, value) :: rest, members, imaged => by
      simp only [imageMembers?, Option.bind_eq_bind, Option.bind_eq_some_iff, Option.pure_def,
        Option.some.injEq] at imaged
      obtain ⟨name, named, image, valueImaged, others, restImaged, rfl⟩ := imaged
      exact .cons (names_of_memberName? named) (shows_of_image? valueImaged)
        (showsMembers_of_imageMembers? restImaged)

end

mutual

theorem Shows.exact : ∀ {node : Node} {image : Json}, Shows node image → node.hasWords = true →
    Json.Exact image
  | _, _, .null, _ => .null
  | _, _, .bool value, _ => .bool value
  | _, _, .integer value, words => by
      rw [hasWords, Bool.and_eq_true, decide_eq_true_eq, decide_eq_true_eq] at words
      exact .integer words.1 words.2
  | _, _, .float finite, _ => .float finite
  | _, _, .notFinite _, _ => .null
  | _, _, .string text, _ => .string text
  | _, _, .sequence each, words => by
      rw [hasWords] at words
      exact .array (each.exact words)
  | _, _, .mapping each, words => by
      rw [hasWords] at words
      exact .object (each.exact words)
  | _, _, .tagged inside, words => by
      rw [hasWords] at words
      exact .object (List.forall_mem_singleton.mpr (inside.exact words))

theorem ShowsItems.exact : ∀ {items : List Node} {images : List Json}, ShowsItems items images →
    itemsHaveWords items = true → ∀ image ∈ images, Json.Exact image
  | _, _, .nil, _ => List.forall_mem_nil _
  | _, _, .cons first rest, words => by
      rw [itemsHaveWords, Bool.and_eq_true] at words
      exact List.forall_mem_cons.mpr ⟨first.exact words.1, rest.exact words.2⟩

theorem ShowsMembers.exact : ∀ {entries : List (Node × Node)} {members : List (String × Json)},
    ShowsMembers entries members → entriesHaveWords entries = true →
    ∀ member ∈ members, Json.Exact member.2
  | _, _, .nil, _ => List.forall_mem_nil _
  | _, _, .cons _ first rest, words => by
      rw [entriesHaveWords, Bool.and_eq_true] at words
      exact List.forall_mem_cons.mpr ⟨first.exact words.1, rest.exact words.2⟩

end

end PipelineAdvisor.Yaml.Node
