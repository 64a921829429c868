namespace CheckedTypes

/-- The declarations that every TypeScript file carries before its own. -/
def typeScriptSupportLines : List String :=
  ["export class ValidationError extends Error \x7b",
   "    constructor(public readonly reason: string, public readonly path: Array<string " ++
     "| number>) \x7b",
   "        super(path.length === 0 ? reason : `$\x7breason\x7d at $\x7bpath.map((p) => " ++
     "`[$\x7bJSON.stringify(p)\x7d]`).join(\"\")\x7d`);",
   "        this.name = \"ValidationError\";",
   "    \x7d",
   "\x7d",
   "",
   "function isPresent(value: any): boolean \x7b",
   "    return value !== undefined && value !== null;",
   "\x7d",
   "",
   "function hasMember(object: any, name: string): boolean \x7b",
   "    return typeof object === \"object\" && object !== null && " ++
     "Object.prototype.hasOwnProperty.call(object, name);",
   "\x7d",
   "",
   "function boundsValidation(value: number, min: number, max: number, hasMin: boolean, " ++
     "hasMax: boolean, exMin: boolean, exMax: boolean): boolean \x7b",
   "    if (hasMin && (value < min || (exMin && value === min))) return false;",
   "    if (hasMax && (value > max || (exMax && value === max))) return false;",
   "    return true;",
   "\x7d",
   "",
   "function integerValidation(min: number, max: number, hasMin: boolean, hasMax: " ++
     "boolean, exMin: boolean, exMax: boolean, multiple: number, useMultiple: boolean, " ++
     "value: any): boolean \x7b",
   "    if (!isPresent(value)) return true;",
   "    if (typeof value !== \"number\" || !Number.isInteger(value)) return false;",
   "    if (!boundsValidation(value, min, max, hasMin, hasMax, exMin, exMax)) return false;",
   "    return !useMultiple || value % multiple === 0;",
   "\x7d",
   "",
   "function numberValidation(min: number, max: number, hasMin: boolean, hasMax: " ++
     "boolean, exMin: boolean, exMax: boolean, multiple: number, useMultiple: boolean, " ++
     "value: any): boolean \x7b",
   "    if (!isPresent(value)) return true;",
   "    if (typeof value !== \"number\") return false;",
   "    if (!boundsValidation(value, min, max, hasMin, hasMax, exMin, exMax)) return false;",
   "    return !useMultiple || value % multiple === 0;",
   "\x7d",
   "",
   "function stringValidation(min: number, max: number, hasMin: boolean, hasMax: " ++
     "boolean, value: any): boolean \x7b",
   "    if (!isPresent(value)) return true;",
   "    if (typeof value !== \"string\") return false;",
   "    return boundsValidation(Array.from(value).length, min, max, hasMin, hasMax, false, false);",
   "\x7d",
   "",
   "function patternValidation(re: RegExp, value: any): boolean \x7b",
   "    if (!isPresent(value)) return true;",
   "    return typeof value === \"string\" && re.test(value);",
   "\x7d",
   "",
   "function arrayValidation(min: number, max: number, hasMin: boolean, hasMax: " ++
     "boolean, unique: boolean, value: any): boolean \x7b",
   "    if (!isPresent(value)) return true;",
   "    if (!Array.isArray(value)) return false;",
   "    if (!boundsValidation(value.length, min, max, hasMin, hasMax, false, false)) return false;",
   "    if (unique) \x7b",
   "        const seen = new Set<string>();",
   "        for (const item of value) \x7b",
   "            const key = JSON.stringify(item);",
   "            if (seen.has(key)) return false;",
   "            seen.add(key);",
   "        \x7d",
   "    \x7d",
   "    return true;",
   "\x7d",
   "",
   "function enumValidation(value: any, values: string[]): boolean \x7b",
   "    if (!isPresent(value)) return true;",
   "    return typeof value === \"string\" && values.includes(value);",
   "\x7d"]

def typeScriptSupport : String :=
  "\n".intercalate typeScriptSupportLines

end CheckedTypes
