namespace CheckedTypes

/-- The declarations that every Go file carries before its own. -/
def goSupportLines : List String :=
  ["type null struct\x7b\x7d",
   "",
   "// ValidationError is returned by generated UnmarshalJSON methods when a",
   "// decoded value violates its schema.",
   "type ValidationError struct \x7b",
   "\tReason string",
   "\tPath   []interface\x7b\x7d",
   "\x7d",
   "",
   "func (err *ValidationError) Error() string \x7b",
   "\tif len(err.Path) == 0 \x7b",
   "\t\treturn err.Reason",
   "\t\x7d",
   "\tpath := \"\"",
   "\tfor _, segment := range err.Path \x7b",
   "\t\tswitch segment := segment.(type) \x7b",
   "\t\tcase string:",
   "\t\t\tpath += fmt.Sprintf(\"[%q]\", segment)",
   "\t\tdefault:",
   "\t\t\tpath += fmt.Sprintf(\"[%v]\", segment)",
   "\t\t\x7d",
   "\t\x7d",
   "\treturn fmt.Sprintf(\"%s at %s\", err.Reason, path)",
   "\x7d",
   "",
   "func validationError(reason string, path ...interface\x7b\x7d) error \x7b",
   "\treturn &ValidationError\x7bReason: reason, Path: path\x7d",
   "\x7d",
   "",
   "func decodeRaw(buffer []byte) (interface\x7b\x7d, error) \x7b",
   "\tvar raw interface\x7b\x7d",
   "\terr := json.Unmarshal(buffer, &raw)",
   "\treturn raw, err",
   "\x7d",
   "",
   "// rawHas reports whether the member at path exists in the undecoded document.",
   "func rawHas(raw interface\x7b\x7d, path ...interface\x7b\x7d) bool \x7b",
   "\tcurrent := raw",
   "\tfor _, segment := range path \x7b",
   "\t\tswitch segment := segment.(type) \x7b",
   "\t\tcase string:",
   "\t\t\tobject, ok := current.(map[string]interface\x7b\x7d)",
   "\t\t\tif !ok \x7b",
   "\t\t\t\treturn false",
   "\t\t\t\x7d",
   "\t\t\tvalue, ok := object[segment]",
   "\t\t\tif !ok \x7b",
   "\t\t\t\treturn false",
   "\t\t\t\x7d",
   "\t\t\tcurrent = value",
   "\t\tcase int:",
   "\t\t\tarray, ok := current.([]interface\x7b\x7d)",
   "\t\t\tif !ok || segment < 0 || segment >= len(array) \x7b",
   "\t\t\t\treturn false",
   "\t\t\t\x7d",
   "\t\t\tcurrent = array[segment]",
   "\t\tdefault:",
   "\t\t\treturn false",
   "\t\t\x7d",
   "\t\x7d",
   "\treturn true",
   "\x7d",
   "",
   "func boundsValidation(value, min, max float64, hasMin, hasMax, exMin, exMax bool) bool \x7b",
   "\tif hasMin && (value < min || (exMin && value == min)) \x7b",
   "\t\treturn false",
   "\t\x7d",
   "\tif hasMax && (value > max || (exMax && value == max)) \x7b",
   "\t\treturn false",
   "\t\x7d",
   "\treturn true",
   "\x7d",
   "",
   "func IntegerValidation(min, max float64, hasMin, hasMax, exMin, exMax bool, " ++
     "multiple float64, useMultiple bool, value *int) bool \x7b",
   "\tif value == nil \x7b",
   "\t\treturn true",
   "\t\x7d",
   "\tnumber := float64(*value)",
   "\tif !boundsValidation(number, min, max, hasMin, hasMax, exMin, exMax) \x7b",
   "\t\treturn false",
   "\t\x7d",
   "\treturn !useMultiple || math.Mod(number, multiple) == 0",
   "\x7d",
   "",
   "func NumberValidation(min, max float64, hasMin, hasMax, exMin, exMax bool, multiple " ++
     "float64, useMultiple bool, value *float64) bool \x7b",
   "\tif value == nil \x7b",
   "\t\treturn true",
   "\t\x7d",
   "\tif !boundsValidation(*value, min, max, hasMin, hasMax, exMin, exMax) \x7b",
   "\t\treturn false",
   "\t\x7d",
   "\treturn !useMultiple || math.Mod(*value, multiple) == 0",
   "\x7d",
   "",
   "func StringValidation(min, max float64, hasMin, hasMax bool, value *string) bool \x7b",
   "\tif value == nil \x7b",
   "\t\treturn true",
   "\t\x7d",
   "\tlength := float64(len([]rune(*value)))",
   "\treturn boundsValidation(length, min, max, hasMin, hasMax, false, false)",
   "\x7d",
   "",
   "func PatternValidation(re *regexp.Regexp, value *string) bool \x7b",
   "\tif value == nil \x7b",
   "\t\treturn true",
   "\t\x7d",
   "\treturn re.MatchString(*value)",
   "\x7d",
   "",
   "func ArrayValidation(min, max float64, hasMin, hasMax, unique bool, value " ++
     "interface\x7b\x7d) bool \x7b",
   "\tarray := reflect.ValueOf(value)",
   "\tif array.Kind() != reflect.Slice \x7b",
   "\t\treturn false",
   "\t\x7d",
   "\tif !boundsValidation(float64(array.Len()), min, max, hasMin, hasMax, false, false) \x7b",
   "\t\treturn false",
   "\t\x7d",
   "\tif unique \x7b",
   "\t\tfor i := 0; i < array.Len(); i++ \x7b",
   "\t\t\tfor j := 0; j < i; j++ \x7b",
   "\t\t\t\tif reflect.DeepEqual(array.Index(i).Interface(), array.Index(j).Interface()) \x7b",
   "\t\t\t\t\treturn false",
   "\t\t\t\t\x7d",
   "\t\t\t\x7d",
   "\t\t\x7d",
   "\t\x7d",
   "\treturn true",
   "\x7d",
   "",
   "func EnumValidation(value *string, values []string) bool \x7b",
   "\tif value == nil \x7b",
   "\t\treturn true",
   "\t\x7d",
   "\tfor _, candidate := range values \x7b",
   "\t\tif candidate == *value \x7b",
   "\t\t\treturn true",
   "\t\t\x7d",
   "\t\x7d",
   "\treturn false",
   "\x7d"]

def goSupport : String :=
  "\n".intercalate goSupportLines

end CheckedTypes
