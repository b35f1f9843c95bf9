import ProtoCheck.Language.Tree

/-!
# Bundled schemas

The schemas that every compiler brings along, under `google/protobuf`: well-known message types, and
the description of schemas themselves, which says what options there are.

* `single`, `repeated`, `valued` : short ways to write declarations;
* `descriptorFile` : the messages that describe schemas, and their options;
* `bundled?` : the bundled schema of a name.
-/

namespace ProtoCheck.Language.Bundle

open Descriptor

/-! ## Declarations -/

def single (t : TypeRef) (name : String) (number : Nat) : FieldNode := { name, number, type := t }

def repeated (t : TypeRef) (name : String) (number : Nat) : FieldNode :=
  { name, number, type := t, label := .repeated }

def required (t : TypeRef) (name : String) (number : Nat) : FieldNode :=
  { name, number, type := t, label := .required }

/-- Adds a field that is a map from texts. -/
def withMap (m : MessageNode) (value : TypeRef) (name : String) (number : Nat) : MessageNode :=
  { m with
    fields := m.fields ++
      [{ name, number, type := .named (mapEntryName name), label := .repeated, isMap := true }]
    messages := m.messages ++ [mapEntry name (.scalar .string) value] }

/-- Adds a oneof with its members. -/
def withOneof (m : MessageNode) (name : String) (fields : List FieldNode) : MessageNode :=
  { m with
    fields := m.fields ++ fields.map fun f => { f with oneof := some m.oneofs.length }
    oneofs := m.oneofs ++ [{ name }] }

def valued (name : String) (values : List (String × Int)) : EnumNode :=
  { name, values := values.map fun v => { name := v.1, number := v.2 } }

abbrev text : TypeRef := .scalar .string
abbrev octets : TypeRef := .scalar .bytes
abbrev bool : TypeRef := .scalar .bool
abbrev int32 : TypeRef := .scalar .int32
abbrev int64 : TypeRef := .scalar .int64

/-- A schema of the bundle. -/
def schema (dialect : Dialect) (imports : List String) (messages : List MessageNode)
    (enums : List EnumNode) : FileNode :=
  { dialect, package := "google.protobuf", imports := imports.map fun n => { name := n }, messages,
    enums }

/-- A schema of the bundle that declares messages and imports nothing. -/
def messagesOnly (ms : List MessageNode) : FileNode := schema .proto3 [] ms []

/-! ## Well-known types -/

def anyFile : FileNode :=
  messagesOnly [{ name := "Any", fields := [single text "type_url" 1, single octets "value" 2] }]

/-- Seconds and fractions of them. -/
def secondsFile (name : String) : FileNode :=
  messagesOnly [{ name, fields := [single int64 "seconds" 1, single int32 "nanos" 2] }]

def wrapper (name : String) (k : ScalarKind) : MessageNode :=
  { name, fields := [single (.scalar k) "value" 1] }

def wrappersFile : FileNode :=
  messagesOnly [wrapper "DoubleValue" .double, wrapper "FloatValue" .float,
    wrapper "Int64Value" .int64, wrapper "UInt64Value" .uint64, wrapper "Int32Value" .int32,
    wrapper "UInt32Value" .uint32, wrapper "BoolValue" .bool, wrapper "StringValue" .string,
    wrapper "BytesValue" .bytes]

def structFile : FileNode :=
  schema .proto3 []
    [withMap { name := "Struct" } (.named "Value") "fields" 1,
      withOneof { name := "Value" } "kind"
        [single (.named "NullValue") "null_value" 1, single (.scalar .double) "number_value" 2,
          single text "string_value" 3, single bool "bool_value" 4,
          single (.named "Struct") "struct_value" 5, single (.named "ListValue") "list_value" 6],
      { name := "ListValue", fields := [repeated (.named "Value") "values" 1] }]
    [valued "NullValue" [("NULL_VALUE", 0)]]

def typeFile : FileNode :=
  schema .proto3 ["google/protobuf/any.proto", "google/protobuf/source_context.proto"]
    [{ name := "Type", fields :=
        [single text "name" 1, repeated (.named "Field") "fields" 2, repeated text "oneofs" 3,
          repeated (.named "Option") "options" 4,
          single (.named "SourceContext") "source_context" 5,
          single (.named "Syntax") "syntax" 6, single text "edition" 7] },
      { name := "Field", fields :=
          [single (.named "Kind") "kind" 1, single (.named "Cardinality") "cardinality" 2,
            single int32 "number" 3, single text "name" 4, single text "type_url" 6,
            single int32 "oneof_index" 7, single bool "packed" 8,
            repeated (.named "Option") "options" 9, single text "json_name" 10,
            single text "default_value" 11]
        enums :=
          [valued "Kind"
              [("TYPE_UNKNOWN", 0), ("TYPE_DOUBLE", 1), ("TYPE_FLOAT", 2), ("TYPE_INT64", 3),
                ("TYPE_UINT64", 4), ("TYPE_INT32", 5), ("TYPE_FIXED64", 6), ("TYPE_FIXED32", 7),
                ("TYPE_BOOL", 8), ("TYPE_STRING", 9), ("TYPE_GROUP", 10), ("TYPE_MESSAGE", 11),
                ("TYPE_BYTES", 12), ("TYPE_UINT32", 13), ("TYPE_ENUM", 14), ("TYPE_SFIXED32", 15),
                ("TYPE_SFIXED64", 16), ("TYPE_SINT32", 17), ("TYPE_SINT64", 18)],
            valued "Cardinality"
              [("CARDINALITY_UNKNOWN", 0), ("CARDINALITY_OPTIONAL", 1), ("CARDINALITY_REQUIRED", 2),
                ("CARDINALITY_REPEATED", 3)]] },
      { name := "Enum", fields :=
          [single text "name" 1, repeated (.named "EnumValue") "enumvalue" 2,
            repeated (.named "Option") "options" 3,
            single (.named "SourceContext") "source_context" 4, single (.named "Syntax") "syntax" 5,
            single text "edition" 6] },
      { name := "EnumValue", fields :=
          [single text "name" 1, single int32 "number" 2, repeated (.named "Option") "options" 3] },
      { name := "Option", fields := [single text "name" 1, single (.named "Any") "value" 2] }]
    [valued "Syntax" [("SYNTAX_PROTO2", 0), ("SYNTAX_PROTO3", 1), ("SYNTAX_EDITIONS", 2)]]

def apiFile : FileNode :=
  schema .proto3 ["google/protobuf/source_context.proto", "google/protobuf/type.proto"]
    [{ name := "Api", fields :=
        [single text "name" 1, repeated (.named "Method") "methods" 2,
          repeated (.named "Option") "options" 3, single text "version" 4,
          single (.named "SourceContext") "source_context" 5, repeated (.named "Mixin") "mixins" 6,
          single (.named "Syntax") "syntax" 7] },
      { name := "Method", fields :=
          [single text "name" 1, single text "request_type_url" 2,
            single bool "request_streaming" 3, single text "response_type_url" 4,
            single bool "response_streaming" 5, repeated (.named "Option") "options" 6,
            single (.named "Syntax") "syntax" 7] },
      { name := "Mixin", fields := [single text "name" 1, single text "root" 2] }] []

/-! ## Descriptions of schemas -/

def fileSetMessage : MessageNode :=
  { name := "FileDescriptorSet", fields := [repeated (.named "FileDescriptorProto") "file" 1] }

def editionEnum : EnumNode :=
  valued "Edition"
    [("EDITION_UNKNOWN", 0), ("EDITION_LEGACY", 900), ("EDITION_PROTO2", 998),
      ("EDITION_PROTO3", 999), ("EDITION_2023", 1000), ("EDITION_2024", 1001),
      ("EDITION_1_TEST_ONLY", 1), ("EDITION_2_TEST_ONLY", 2), ("EDITION_99997_TEST_ONLY", 99997),
      ("EDITION_99998_TEST_ONLY", 99998), ("EDITION_99999_TEST_ONLY", 99999),
      ("EDITION_MAX", 2147483647)]

def fileMessage : MessageNode :=
  { name := "FileDescriptorProto", fields :=
      [single text "name" 1, single text "package" 2, repeated text "dependency" 3,
        repeated int32 "public_dependency" 10, repeated int32 "weak_dependency" 11,
        repeated (.named "DescriptorProto") "message_type" 4,
        repeated (.named "EnumDescriptorProto") "enum_type" 5,
        repeated (.named "ServiceDescriptorProto") "service" 6,
        repeated (.named "FieldDescriptorProto") "extension" 7,
        single (.named "FileOptions") "options" 8,
        single (.named "SourceCodeInfo") "source_code_info" 9, single text "syntax" 12,
        single (.named "Edition") "edition" 14] }

def startEnd (name : String) (more : List FieldNode) : MessageNode :=
  { name, fields := [single int32 "start" 1, single int32 "end" 2] ++ more }

def messageMessage : MessageNode :=
  { name := "DescriptorProto", fields :=
      [single text "name" 1, repeated (.named "FieldDescriptorProto") "field" 2,
        repeated (.named "FieldDescriptorProto") "extension" 6,
        repeated (.named "DescriptorProto") "nested_type" 3,
        repeated (.named "EnumDescriptorProto") "enum_type" 4,
        repeated (.named "ExtensionRange") "extension_range" 5,
        repeated (.named "OneofDescriptorProto") "oneof_decl" 8,
        single (.named "MessageOptions") "options" 7,
        repeated (.named "ReservedRange") "reserved_range" 9, repeated text "reserved_name" 10]
    messages :=
      [startEnd "ExtensionRange" [single (.named "ExtensionRangeOptions") "options" 3],
        startEnd "ReservedRange" []] }

def fieldMessage : MessageNode :=
  { name := "FieldDescriptorProto", fields :=
      [single text "name" 1, single int32 "number" 3, single (.named "Label") "label" 4,
        single (.named "Type") "type" 5, single text "type_name" 6, single text "extendee" 2,
        single text "default_value" 7, single int32 "oneof_index" 9, single text "json_name" 10,
        single (.named "FieldOptions") "options" 8, single bool "proto3_optional" 17]
    enums :=
      [valued "Type"
          [("TYPE_DOUBLE", 1), ("TYPE_FLOAT", 2), ("TYPE_INT64", 3), ("TYPE_UINT64", 4),
            ("TYPE_INT32", 5), ("TYPE_FIXED64", 6), ("TYPE_FIXED32", 7), ("TYPE_BOOL", 8),
            ("TYPE_STRING", 9), ("TYPE_GROUP", 10), ("TYPE_MESSAGE", 11), ("TYPE_BYTES", 12),
            ("TYPE_UINT32", 13), ("TYPE_ENUM", 14), ("TYPE_SFIXED32", 15), ("TYPE_SFIXED64", 16),
            ("TYPE_SINT32", 17), ("TYPE_SINT64", 18)],
        valued "Label" [("LABEL_OPTIONAL", 1), ("LABEL_REPEATED", 3), ("LABEL_REQUIRED", 2)]] }

def enumMessage : MessageNode :=
  { name := "EnumDescriptorProto", fields :=
      [single text "name" 1, repeated (.named "EnumValueDescriptorProto") "value" 2,
        single (.named "EnumOptions") "options" 3,
        repeated (.named "EnumReservedRange") "reserved_range" 4, repeated text "reserved_name" 5]
    messages := [startEnd "EnumReservedRange" []] }

def smallMessages : List MessageNode :=
  [{ name := "OneofDescriptorProto",
     fields := [single text "name" 1, single (.named "OneofOptions") "options" 2] },
    { name := "EnumValueDescriptorProto", fields :=
        [single text "name" 1, single int32 "number" 2,
          single (.named "EnumValueOptions") "options" 3] },
    { name := "ServiceDescriptorProto", fields :=
        [single text "name" 1, repeated (.named "MethodDescriptorProto") "method" 2,
          single (.named "ServiceOptions") "options" 3] },
    { name := "MethodDescriptorProto", fields :=
        [single text "name" 1, single text "input_type" 2, single text "output_type" 3,
          single (.named "MethodOptions") "options" 4, single bool "client_streaming" 5,
          single bool "server_streaming" 6] },
    { name := "UninterpretedOption", fields :=
        [repeated (.named "NamePart") "name" 2, single text "identifier_value" 3,
          single (.scalar .uint64) "positive_int_value" 4, single int64 "negative_int_value" 5,
          single (.scalar .double) "double_value" 6, single octets "string_value" 7,
          single text "aggregate_value" 8]
      messages :=
        [{ name := "NamePart",
           fields := [required text "name_part" 1, required bool "is_extension" 2] }] },
    { name := "SourceCodeInfo", fields := [repeated (.named "Location") "location" 1]
      messages :=
        [{ name := "Location", fields :=
            [repeated int32 "path" 1, repeated int32 "span" 2, single text "leading_comments" 3,
              single text "trailing_comments" 4, repeated text "leading_detached_comments" 6] }] },
    { name := "GeneratedCodeInfo", fields := [repeated (.named "Annotation") "annotation" 1]
      messages :=
        [{ name := "Annotation", fields :=
            [repeated int32 "path" 1, single text "source_file" 2, single int32 "begin" 3,
              single int32 "end" 4, single (.named "Semantic") "semantic" 5]
           enums := [valued "Semantic" [("NONE", 0), ("SET", 1), ("ALIAS", 2)]] }] }]

/-! ## Options -/

/-- The options of a kind of declaration, with those that other schemas may add. -/
def options (name : String) (fields : List FieldNode) : MessageNode :=
  { name
    fields := fields ++ [repeated (.named "UninterpretedOption") "uninterpreted_option" 999]
    extensionRanges := [⟨1000, none, default⟩] }

def features (number : Nat) : FieldNode := single (.named "FeatureSet") "features" number

def fileOptions : MessageNode :=
  { options "FileOptions"
      [single text "java_package" 1, single text "java_outer_classname" 8,
        single bool "java_multiple_files" 10, single bool "java_generate_equals_and_hash" 20,
        single bool "java_string_check_utf8" 27, single (.named "OptimizeMode") "optimize_for" 9,
        single text "go_package" 11, single bool "cc_generic_services" 16,
        single bool "java_generic_services" 17, single bool "py_generic_services" 18,
        single bool "deprecated" 23, single bool "cc_enable_arenas" 31,
        single text "objc_class_prefix" 36, single text "csharp_namespace" 37,
        single text "swift_prefix" 39, single text "php_class_prefix" 40,
        single text "php_namespace" 41, single text "php_metadata_namespace" 44,
        single text "ruby_package" 45, features 50] with
    enums := [valued "OptimizeMode" [("SPEED", 1), ("CODE_SIZE", 2), ("LITE_RUNTIME", 3)]] }

def messageOptions : MessageNode :=
  options "MessageOptions"
    [single bool "message_set_wire_format" 1, single bool "no_standard_descriptor_accessor" 2,
      single bool "deprecated" 3, single bool "map_entry" 7,
      single bool "deprecated_legacy_json_field_conflicts" 11, features 12]

def fieldOptions : MessageNode :=
  { options "FieldOptions"
      [single (.named "CType") "ctype" 1, single bool "packed" 2,
       single (.named "JSType") "jstype" 6,
        single bool "lazy" 5, single bool "unverified_lazy" 15, single bool "deprecated" 3,
        single bool "weak" 10, single bool "debug_redact" 16,
        single (.named "OptionRetention") "retention" 17,
        repeated (.named "OptionTargetType") "targets" 19,
        repeated (.named "EditionDefault") "edition_defaults" 20, features 21,
        single (.named "FeatureSupport") "feature_support" 22] with
    messages :=
      [{ name := "EditionDefault",
         fields := [single (.named "Edition") "edition" 3, single text "value" 2] },
        { name := "FeatureSupport", fields :=
            [single (.named "Edition") "edition_introduced" 1,
              single (.named "Edition") "edition_deprecated" 2, single text "deprecation_warning" 3,
              single (.named "Edition") "edition_removed" 4] }]
    enums :=
      [valued "CType" [("STRING", 0), ("CORD", 1), ("STRING_PIECE", 2)],
        valued "JSType" [("JS_NORMAL", 0), ("JS_STRING", 1), ("JS_NUMBER", 2)],
        valued "OptionRetention"
          [("RETENTION_UNKNOWN", 0), ("RETENTION_RUNTIME", 1), ("RETENTION_SOURCE", 2)],
        valued "OptionTargetType"
          [("TARGET_TYPE_UNKNOWN", 0), ("TARGET_TYPE_FILE", 1), ("TARGET_TYPE_EXTENSION_RANGE", 2),
            ("TARGET_TYPE_MESSAGE", 3), ("TARGET_TYPE_FIELD", 4), ("TARGET_TYPE_ONEOF", 5),
            ("TARGET_TYPE_ENUM", 6), ("TARGET_TYPE_ENUM_ENTRY", 7), ("TARGET_TYPE_SERVICE", 8),
            ("TARGET_TYPE_METHOD", 9)]] }

def rangeOptions : MessageNode :=
  { options "ExtensionRangeOptions"
      [repeated (.named "Declaration") "declaration" 2, features 50,
        single (.named "VerificationState") "verification" 3] with
    messages :=
      [{ name := "Declaration", fields :=
          [single int32 "number" 1, single text "full_name" 2, single text "type" 3,
            single bool "reserved" 5, single bool "repeated" 6] }]
    enums := [valued "VerificationState" [("DECLARATION", 0), ("UNVERIFIED", 1)]] }

def otherOptions : List MessageNode :=
  [options "OneofOptions" [features 1],
    options "EnumOptions"
      [single bool "allow_alias" 2, single bool "deprecated" 3,
        single bool "deprecated_legacy_json_field_conflicts" 6, features 7],
    options "EnumValueOptions"
      [single bool "deprecated" 1, features 2, single bool "debug_redact" 3,
        single (.named "FieldOptions.FeatureSupport") "feature_support" 4],
    options "ServiceOptions" [features 34, single bool "deprecated" 33],
    { options "MethodOptions"
        [single bool "deprecated" 33, single (.named "IdempotencyLevel") "idempotency_level" 34,
          features 35] with
      enums :=
        [valued "IdempotencyLevel"
          [("IDEMPOTENCY_UNKNOWN", 0), ("NO_SIDE_EFFECTS", 1), ("IDEMPOTENT", 2)]] }]

def featureMessages : List MessageNode :=
  [{ name := "FeatureSet", fields :=
      [single (.named "FieldPresence") "field_presence" 1, single (.named "EnumType") "enum_type" 2,
        single (.named "RepeatedFieldEncoding") "repeated_field_encoding" 3,
        single (.named "Utf8Validation") "utf8_validation" 4,
        single (.named "MessageEncoding") "message_encoding" 5,
        single (.named "JsonFormat") "json_format" 6]
     extensionRanges := [⟨1000, some 10000, default⟩]
     enums :=
      [valued "FieldPresence"
          [("FIELD_PRESENCE_UNKNOWN", 0), ("EXPLICIT", 1), ("IMPLICIT", 2), ("LEGACY_REQUIRED", 3)],
        valued "EnumType" [("ENUM_TYPE_UNKNOWN", 0), ("OPEN", 1), ("CLOSED", 2)],
        valued "RepeatedFieldEncoding"
          [("REPEATED_FIELD_ENCODING_UNKNOWN", 0), ("PACKED", 1), ("EXPANDED", 2)],
        valued "Utf8Validation" [("UTF8_VALIDATION_UNKNOWN", 0), ("VERIFY", 2), ("NONE", 3)],
        valued "MessageEncoding"
          [("MESSAGE_ENCODING_UNKNOWN", 0), ("LENGTH_PREFIXED", 1), ("DELIMITED", 2)],
        valued "JsonFormat"
          [("JSON_FORMAT_UNKNOWN", 0), ("ALLOW", 1), ("LEGACY_BEST_EFFORT", 2)]] },
    { name := "FeatureSetDefaults", fields :=
        [repeated (.named "FeatureSetEditionDefault") "defaults" 1,
          single (.named "Edition") "minimum_edition" 4,
          single (.named "Edition") "maximum_edition" 5]
      messages :=
        [{ name := "FeatureSetEditionDefault", fields :=
            [single (.named "Edition") "edition" 3,
              single (.named "FeatureSet") "overridable_features" 4,
              single (.named "FeatureSet") "fixed_features" 5] }] }]

def descriptorFile : FileNode :=
  schema .proto2 []
    ([fileSetMessage, fileMessage, messageMessage, rangeOptions, fieldMessage, enumMessage] ++
      smallMessages ++ [fileOptions, messageOptions, fieldOptions] ++ otherOptions ++
      featureMessages)
    [editionEnum]

/-! ## Names -/

def descriptorName : String := "google/protobuf/descriptor.proto"

/-- The bundled schemas by their names. -/
def schemas : List (String × FileNode) :=
  [("google/protobuf/any.proto", anyFile), ("google/protobuf/api.proto", apiFile),
    (descriptorName, descriptorFile),
    ("google/protobuf/duration.proto", secondsFile "Duration"),
    ("google/protobuf/empty.proto", messagesOnly [{ name := "Empty" }]),
    ("google/protobuf/field_mask.proto",
      messagesOnly [{ name := "FieldMask", fields := [repeated text "paths" 1] }]),
    ("google/protobuf/source_context.proto",
      messagesOnly [{ name := "SourceContext", fields := [single text "file_name" 1] }]),
    ("google/protobuf/struct.proto", structFile),
    ("google/protobuf/timestamp.proto", secondsFile "Timestamp"),
    ("google/protobuf/type.proto", typeFile), ("google/protobuf/wrappers.proto", wrappersFile)]

/-- The bundled schema of a name. -/
def bundled? (name : String) : Option FileNode := schemas.lookup name

end ProtoCheck.Language.Bundle
