import ProtoCheck.Language.Input

/-!
# Faults of declarations

What can be wrong with declarations that are written as they should be.

* `DeclarationFault` : the causes, by what they concern;
* `DeclarationFault.message` : their wording;
* `FileFault`, `Cause` : all that can be wrong with a file.
-/

namespace ProtoCheck.Language

/-- The numbers from the first to the last. -/
abbrev Span := Int × Int

inductive DeclarationFault where
  -- Imports.
  | importTwice (name : String)
  | importMissing (name : String)
  | importUnused (name : String)
  | importCycle (names : List String)
  -- Names.
  | defined (name : String)
  | definedIn (name scope : String)
  | definedInFile (name file : String)
  | packageTaken (name file : String)
  /-- The scope of an enum's values is that of the enum. -/
  | enumScoping (value scope enum : String)
  | notDefined (name : String)
  | definedElsewhere (name file own : String)
  | innerNotDefined (name inner : String)
  | notType (name : String)
  | notMessage (name : String)
  | mapEntryTaken (entry what : String)
  -- Numbers.
  | numberNotPositive
  | numberTooGreat (greatest : Nat)
  | numberOfLibrary (first last : Nat)
  | numberTaken (number : Int) (owner field : String)
  | extensionTaken (number : Int) (owner field : String)
  | extensionTakenIn (number : Int) (owner field file : String)
  | numberNotOpen (number : Int) (owner : String)
  | numbersFree (message : String) (numbers : List Nat)
  | fieldReserved (field : String) (number : Int)
  | nameReserved (field : String)
  | nameReservedTwice (field : String)
  | rangeNotPositive (what : String)
  | rangeReversed (what : String)
  | rangeHolds (range : Span) (field : String) (number : Int)
  | rangeTooGreat (greatest : Nat)
  | reservedOverlap (range earlier : Span)
  | rangeOverlap (range earlier : Span)
  | rangeReserved (range reserved : Span)
  -- Enums.
  | enumEmpty
  | enumFirst
  | enumNumberShared (value earlier : String) (free : Option Int)
  | enumNamesAlike (value earlier : String)
  | valueReserved (value : String) (number : Int)
  | valueNameReserved (value : String)
  | valueNameReservedTwice (value : String)
  -- Fields.
  | extensionRequired (name : String)
  | defaultRepeated
  | defaultMessage
  | defaultNotWord
  | defaultNoValue (enum value : String)
  | oneofEmpty
  | packedKind
  | mapKeyEnum
  | mapKeyKind
  | mapValueEnum
  | jsonNames (custom : Bool) (field name : String) (earlierCustom : Bool) (earlier : String)
  | jsonNameOfExtension
  -- The dialect `proto3`.
  | extensionsHere
  | rangesHere
  | requiredHere
  | defaultHere
  | groupHere
  | messageSetHere
  | closedEnumHere (enum owner : String)
  -- Options.
  | optionUnknown (name : String)
  | optionInner (name inner : String)
  | optionForeign (name message : String)
  | optionAtomic (name : String)
  | optionRepeated (name : String)
  | optionTwice (name : String)
  | optionReserved
  | valueInteger (kind option : String)
  | valueRange (kind option : String)
  | valueNumber (kind option : String)
  | valueBool (option : String)
  | valueWordForBool (option : String)
  | valueWordForEnum (option : String)
  | valueOfEnum (enum value option : String)
  | valueText (option : String)
  | valueMessage (option name : String)
  -- Features.
  | featuresHere
  | packedHere
  | presenceOfOneof
  | presenceOfRepeated
  | presenceOfExtension
  | implicitMessage
  | implicitDefault
  | implicitClosedEnum
  deriving DecidableEq, Repr

/-- A range in words. -/
def spanText (r : Span) : String := toString r.1 ++ " to " ++ toString r.2

def quote (s : String) : String := "\"" ++ s ++ "\""

def DeclarationFault.message : DeclarationFault → String
  | .importTwice name => "Import " ++ quote name ++ " was listed twice."
  | .importMissing name => "Import " ++ quote name ++ " was not found or had errors."
  | .importUnused name => "Import " ++ name ++ " is unused."
  | .importCycle names => "File recursively imports itself: " ++ " -> ".intercalate names
  | .defined name => quote name ++ " is already defined."
  | .definedIn name scope => quote name ++ " is already defined in " ++ quote scope ++ "."
  | .definedInFile name file => quote name ++ " is already defined in file " ++ quote file ++ "."
  | .packageTaken name file =>
    quote name ++ " is already defined (as something other than a package) in file " ++
      quote file ++ "."
  | .enumScoping value scope enum =>
    "Note that enum values use C++ scoping rules, meaning that enum values are siblings of " ++
      "their type, not children of it.  Therefore, " ++ quote value ++ " must be unique within " ++
      (if scope.isEmpty then "the global scope" else quote scope) ++ ", not just within " ++
      quote enum ++ "."
  | .notDefined name => quote name ++ " is not defined."
  | .definedElsewhere name file own =>
    quote name ++ " seems to be defined in " ++ quote file ++ ", which is not imported by " ++
      quote own ++ ".  To use it here, please add the necessary import."
  | .innerNotDefined name inner =>
    quote name ++ " is resolved to " ++ quote inner ++ ", which is not defined. The innermost " ++
      "scope is searched first in name resolution. Consider using a leading '.'(i.e., " ++
      quote ("." ++ name) ++ ") to start from the outermost scope."
  | .notType name => quote name ++ " is not a type."
  | .notMessage name => quote name ++ " is not a message type."
  | .mapEntryTaken entry what =>
    "Expanded map entry type " ++ entry ++ " conflicts with an existing " ++ what ++ "."
  | .numberNotPositive => "Field numbers must be positive integers."
  | .numberTooGreat n => "Field numbers cannot be greater than " ++ toString n ++ "."
  | .numberOfLibrary first last =>
    "Field numbers " ++ toString first ++ " through " ++ toString last ++
      " are reserved for the protocol buffer library implementation."
  | .numberTaken n owner field =>
    "Field number " ++ toString n ++ " has already been used in " ++ quote owner ++ " by field " ++
      quote field ++ "."
  | .extensionTaken n owner field =>
    "Extension number " ++ toString n ++ " has already been used in " ++ quote owner ++
      " by extension " ++ quote field ++ "."
  | .extensionTakenIn n owner field file =>
    "Extension number " ++ toString n ++ " has already been used in " ++ quote owner ++
      " by extension " ++ quote field ++ " defined in " ++ file ++ "."
  | .numberNotOpen n owner =>
    quote owner ++ " does not declare " ++ toString n ++ " as an extension number."
  | .numbersFree message numbers =>
    "Suggested field numbers for " ++ message ++ ": " ++ ", ".intercalate (numbers.map toString)
  | .fieldReserved field n =>
    "Field " ++ quote field ++ " uses reserved number " ++ toString n ++ "."
  | .nameReserved field => "Field name " ++ quote field ++ " is reserved."
  | .nameReservedTwice field => "Field name " ++ quote field ++ " is reserved multiple times."
  | .rangeNotPositive what => what ++ " numbers must be positive integers."
  | .rangeReversed what => what ++ " range end number must be greater than start number."
  | .rangeHolds r field n =>
    "Extension range " ++ spanText r ++ " includes field " ++ quote field ++ " (" ++ toString n ++
      ")."
  | .rangeTooGreat n => "Extension numbers cannot be greater than " ++ toString n ++ "."
  | .reservedOverlap r earlier =>
    "Reserved range " ++ spanText r ++ " overlaps with already-defined range " ++
      spanText earlier ++
      "."
  | .rangeOverlap r earlier =>
    "Extension range " ++ spanText r ++ " overlaps with already-defined range " ++
      spanText earlier ++ "."
  | .rangeReserved r reserved =>
    "Extension range " ++ spanText r ++ " overlaps with reserved range " ++ spanText reserved ++ "."
  | .enumEmpty => "Enums must contain at least one value."
  | .enumFirst => "The first enum value must be zero for open enums."
  | .enumNumberShared value earlier free =>
    quote value ++ " uses the same enum value as " ++ quote earlier ++
      ". If this is intended, set 'option allow_alias = true;' to the enum definition." ++
      (free.map fun n => " The next available enum value is " ++ toString n ++ ".").getD ""
  | .enumNamesAlike value earlier =>
    "Enum name " ++ value ++ " has the same name as " ++ earlier ++
      " if you ignore case and strip out the enum name prefix (if any). (If you are using " ++
      "allow_alias, please assign the same number to each enum value name.)"
  | .valueReserved value n =>
    "Enum value " ++ quote value ++ " uses reserved number " ++ toString n ++ "."
  | .valueNameReserved value => "Enum value " ++ quote value ++ " is reserved."
  | .valueNameReservedTwice value =>
    "Enum value " ++ quote value ++ " is reserved multiple times."
  | .extensionRequired name => "The extension " ++ name ++ " cannot be required."
  | .defaultRepeated => "Repeated fields can't have default values."
  | .defaultMessage => "Messages can't have default values."
  | .defaultNotWord => "Default value for an enum field must be an identifier."
  | .defaultNoValue enum value =>
    "Enum type " ++ quote enum ++ " has no value named " ++ quote value ++ "."
  | .oneofEmpty => "Oneof must have at least one field."
  | .packedKind => "[packed = true] can only be specified for repeated primitive fields."
  | .mapKeyEnum => "Key in map fields cannot be enum types."
  | .mapKeyKind => "Key in map fields cannot be float/double, bytes or message types."
  | .mapValueEnum => "Enum value in map must define 0 as the first value."
  | .jsonNames custom field name earlierCustom earlier =>
    let kind := fun b : Bool => if b then "custom" else "default"
    "The " ++ kind custom ++ " JSON name of field " ++ quote field ++ " (" ++ quote name ++
      ") conflicts with the " ++ kind earlierCustom ++ " JSON name of field " ++
        quote earlier ++ "."
  | .jsonNameOfExtension => "option json_name is not allowed on extension fields."
  | .extensionsHere => "Extensions in proto3 are only allowed for defining options."
  | .rangesHere => "Extension ranges are not allowed in proto3."
  | .requiredHere => "Required fields are not allowed in proto3."
  | .defaultHere => "Explicit default values are not allowed in proto3."
  | .groupHere => "Groups are not supported in proto3 syntax."
  | .messageSetHere => "MessageSet is not supported in proto3."
  | .closedEnumHere enum owner =>
    "Enum type " ++ quote enum ++ " is not an open enum, but is used in " ++ quote owner ++
      " which is a proto3 message type."
  | .optionUnknown name =>
    "Option " ++ quote name ++ " unknown. Ensure that your proto definition file imports the " ++
      "proto which defines the option."
  | .optionInner name inner =>
    "Option " ++ quote name ++ " is resolved to " ++ quote ("(" ++ inner ++ ")") ++
      ", which is not defined. The innermost scope is searched first in name resolution. " ++
      "Consider using a leading '.'(i.e., " ++ quote ("(." ++ name.drop 1) ++
      ") to start from the outermost scope."
  | .optionForeign name message =>
    "Option field " ++ quote name ++ " is not a field or extension of message " ++ quote message ++
      "."
  | .optionAtomic name => "Option " ++ quote name ++ " is an atomic type, not a message."
  | .optionRepeated name =>
    "Option field " ++ quote name ++ " is a repeated message. Repeated message options must be " ++
      "initialized using an aggregate value."
  | .optionTwice name => "Option " ++ quote name ++ " was already set."
  | .optionReserved => "Option must not use reserved name \"uninterpreted_option\"."
  | .valueInteger kind option =>
    "Value must be " ++ (if kind.startsWith "u" then "non-negative integer" else "integer") ++
      " for " ++ kind ++ " option " ++ quote option ++ "."
  | .valueRange kind option =>
      "Value out of range for " ++ kind ++ " option " ++ quote option ++ "."
  | .valueNumber kind option =>
      "Value must be number for " ++ kind ++ " option " ++ quote option ++ "."
  | .valueBool option =>
    "Value must be \"true\" or \"false\" for boolean option " ++ quote option ++ "."
  | .valueWordForBool option =>
      "Value must be identifier for boolean option " ++ quote option ++ "."
  | .valueWordForEnum option =>
    "Value must be identifier for enum-valued option " ++ quote option ++ "."
  | .valueOfEnum enum value option =>
    "Enum type " ++ quote enum ++ " has no value named " ++ quote value ++ " for option " ++
      quote option ++ "."
  | .valueText option => "Value must be quoted string for string option " ++ quote option ++ "."
  | .valueMessage option name =>
    "Option " ++ quote option ++ " is a message. To set the entire message, use syntax like " ++
      quote (name ++ " = \x7b <proto text format> \x7d") ++
      ". To set fields within it, use syntax like " ++ quote (name ++ ".foo = value") ++ "."
  | .featuresHere => "Features are only valid under editions."
  | .packedHere =>
    "Field option packed is not allowed under editions.  Use the repeated_field_encoding " ++
      "feature to control this behavior."
  | .presenceOfOneof => "Oneof fields can't specify field presence."
  | .presenceOfRepeated => "Repeated fields can't specify field presence."
  | .presenceOfExtension => "Extensions can't specify field presence."
  | .implicitMessage => "Message fields can't specify implicit presence."
  | .implicitDefault => "Implicit presence fields can't specify defaults."
  | .implicitClosedEnum => "Implicit presence enum fields must always be open."

/-- Why a file cannot be read. -/
inductive FileFault where
  | notFound
  | badName
  deriving DecidableEq, Repr

def FileFault.message : FileFault → String
  | .notFound => "File not found."
  | .badName =>
    "Backslashes, consecutive slashes, \".\", or \"..\" are not allowed in the virtual path"

/-- What is wrong with a file, its source, or what it declares. -/
inductive Cause where
  | file (f : FileFault)
  | source (f : SourceFault)
  | declaration (f : DeclarationFault)
  deriving DecidableEq, Repr

def Cause.message : Cause → String
  | .file f => f.message
  | .source f => f.message
  | .declaration f => f.message

end ProtoCheck.Language
