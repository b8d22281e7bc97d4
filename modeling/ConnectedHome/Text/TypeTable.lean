/-!
# The types of values and their attributes

Fields of templates may ask values for attributes (`Text.Subject`).  What the types of values
hold is given here as two tables: `typeTexts`, the texts the attributes name (documentation,
signatures, names), and `attributeRows`, one row for every attribute of every type, read by
`attributeRow?`.

A row is `type attribute scope tag fields…`, the fields separated by single spaces.  The
scope is `A` for an attribute the type's instances have and `C` for one only the type itself
has.  The tag and its fields say what the attribute holds:

* `t i`: the text `typeTexts[i]`; `n k`: the integer `k`; `z`: nothing;
* `y T`: the type `T`; `u T₁ T₂ …`: a tuple of types;
* `d form name owner doc sig`: a routine of the type `owner` not bound to anything: a method
  (`md`), a slot (`wd`), a class method (`cd`), an attribute (`gd`) or a member (`xd`);
* `b form name qualname doc sig self`: a routine bound to something: a built-in method (`bm`) or
  a method wrapper (`mw`), bound to nothing (`N`) or to a type (`T:name`);
* `o type repr`: another object, shown by the text `repr`; `m msg`: no such attribute, with the
  refusal's text.

`doc` and `sig` are indices of `typeTexts`, `-` where there is none.  The attributes of a type
are the attributes its instances see together with those every type has (its name, its bases,
its documentation); a type's own row wins.
-/
namespace ConnectedHome.Text

/-- The texts the attribute rows refer to. -/
def typeTexts : Array String := #[
  "__abstractmethods__",
  "type object 'NoneType' has no attribute '__annotations__'",
  "True if self else False",
  "($self, /)",
  "Call self as a function.",
  "($self, /, *args, **kwargs)",
  "Implement delattr(self, name).",
  "($self, name, /)",
  "mappingproxy(\x7b'__new__': <built-in method __new__ of type object at 0x7f3983c21ab8>, '__repr__': <slot wrapper '__repr__' of 'NoneType' objects>, '__bool__': <slot wrapper '__bool__' of 'NoneType' objects>, '__doc__': None\x7d)",
  "Default dir() implementation.",
  "Return self==value.",
  "($self, value, /)",
  "Default object formatter.",
  "($self, format_spec, /)",
  "Return self>=value.",
  "Return getattr(self, name).",
  "Helper for pickle.",
  "Return self>value.",
  "Return hash(self).",
  "Initialize self.  See help(type(self)) for accurate signature.",
  "This method is called when a class is subclassed.\n\nThe default implementation does nothing. It may be\noverridden to extend subclasses.\n",
  "Check if an object is an instance.",
  "($self, instance, /)",
  "Return self<=value.",
  "Return self<value.",
  "builtins",
  "NoneType",
  "Return self!=value.",
  "Create and return a new object.  See help(type) for accurate signature.",
  "($type, *args, **kwargs)",
  "Return self|value.",
  "__prepare__() -> dict\nused to create the namespace for the class statement",
  "($self, protocol, /)",
  "Return repr(self).",
  "Return value|self.",
  "Implement setattr(self, name, value).",
  "($self, name, value, /)",
  "Size of object in memory, in bytes.",
  "Return str(self).",
  "Check if a class is a subclass.",
  "($self, subclass, /)",
  "Return a list of immediate subclasses.",
  "Abstract classes can override this to customize issubclass().\n\nThis is invoked early on by abc.ABCMeta.__subclasscheck__().\nIt should return True, False or NotImplemented.  If it returns\nNotImplemented, the normal algorithm is used.  Otherwise, it\noverrides the normal algorithm (and the outcome is cached).\n",
  "Return a type's method resolution order.",
  "abs(self)",
  "Return self+value.",
  "Return self&value.",
  "type object 'bool' has no attribute '__annotations__'",
  "Ceiling of an Integral returns itself.",
  "mappingproxy(\x7b'__new__': <built-in method __new__ of type object at 0x7f3983c3d8d0>, '__repr__': <slot wrapper '__repr__' of 'bool' objects>, '__and__': <slot wrapper '__and__' of 'bool' objects>, '__rand__': <slot wrapper '__rand__' of 'bool' objects>, '__xor__': <slot wrapper '__xor__' of 'bool' objects>, '__rxor__': <slot wrapper '__rxor__' of 'bool' objects>, '__or__': <slot wrapper '__or__' of 'bool' objects>, '__ror__': <slot wrapper '__ror__' of 'bool' objects>, '__doc__': 'bool(x) -> bool\\n\\nReturns True when the argument x is true, False otherwise.\\nThe builtins True and False are the only two instances of the class bool.\\nThe class bool is a subclass of the class int, and cannot be subclassed.'\x7d)",
  "Return divmod(self, value).",
  "bool(x) -> bool\n\nReturns True when the argument x is true, False otherwise.\nThe builtins True and False are the only two instances of the class bool.\nThe class bool is a subclass of the class int, and cannot be subclassed.",
  "float(self)",
  "Flooring an Integral returns itself.",
  "Return self//value.",
  "Return self converted to an integer, if self is suitable for use as an index into a list.",
  "int(self)",
  "~self",
  "Return self<<value.",
  "Return self%value.",
  "Return self*value.",
  "bool",
  "-self",
  "+self",
  "Return pow(self, value, mod).",
  "($self, value, mod=None, /)",
  "Return value+self.",
  "Return value&self.",
  "Return divmod(value, self).",
  "Return value//self.",
  "Return value<<self.",
  "Return value%self.",
  "Return value*self.",
  "Rounding an Integral returns itself.\n\nRounding with an ndigits argument also returns an integer.",
  "($self, ndigits=<unrepresentable>, /)",
  "Return pow(value, self, mod).",
  "Return value>>self.",
  "Return self>>value.",
  "Return value-self.",
  "Return value/self.",
  "Return value^self.",
  "Returns size in memory, in bytes.",
  "Return self-value.",
  "Return self/value.",
  "Truncating an Integral returns itself.",
  "Return self^value.",
  "Return integer ratio.\n\nReturn a pair of integers, whose ratio is exactly equal to the original int\nand with a positive denominator.\n\n>>> (10).as_integer_ratio()\n(10, 1)\n>>> (-10).as_integer_ratio()\n(-10, 1)\n>>> (0).as_integer_ratio()\n(0, 1)",
  "Number of ones in the binary representation of the absolute value of self.\n\nAlso known as the population count.\n\n>>> bin(13)\n'0b1101'\n>>> (13).bit_count()\n3",
  "Number of bits necessary to represent self in binary.\n\n>>> bin(37)\n'0b100101'\n>>> (37).bit_length()\n6",
  "Returns self, the complex conjugate of any int.",
  "the denominator of a rational number in lowest terms",
  "Return the integer represented by the given array of bytes.\n\n  bytes\n    Holds the array of bytes to convert.  The argument must either\n    support the buffer protocol or be an iterable object producing bytes.\n    Bytes and bytearray are examples of built-in objects that support the\n    buffer protocol.\n  byteorder\n    The byte order used to represent the integer.  If byteorder is 'big',\n    the most significant byte is at the beginning of the byte array.  If\n    byteorder is 'little', the most significant byte is at the end of the\n    byte array.  To request the native byte order of the host system, use\n    `sys.byteorder' as the byte order value.  Default is to use 'big'.\n  signed\n    Indicates whether two's complement is used to represent the integer.",
  "($type, /, bytes, byteorder='big', *, signed=False)",
  "the imaginary part of a complex number",
  "the numerator of a rational number in lowest terms",
  "the real part of a complex number",
  "Return an array of bytes representing an integer.\n\n  length\n    Length of bytes object to use.  An OverflowError is raised if the\n    integer is not representable with the given number of bytes.  Default\n    is length 1.\n  byteorder\n    The byte order used to represent the integer.  If byteorder is 'big',\n    the most significant byte is at the beginning of the byte array.  If\n    byteorder is 'little', the most significant byte is at the end of the\n    byte array.  To request the native byte order of the host system, use\n    `sys.byteorder' as the byte order value.  Default is to use 'big'.\n  signed\n    Determines whether two's complement is used to represent the integer.\n    If signed is False and a negative integer is given, an OverflowError\n    is raised.",
  "($self, /, length=1, byteorder='big', *, signed=False)",
  "type object 'int' has no attribute '__annotations__'",
  "mappingproxy(\x7b'__new__': <built-in method __new__ of type object at 0x7f3983c89858>, '__repr__': <slot wrapper '__repr__' of 'int' objects>, '__hash__': <slot wrapper '__hash__' of 'int' objects>, '__getattribute__': <slot wrapper '__getattribute__' of 'int' objects>, '__lt__': <slot wrapper '__lt__' of 'int' objects>, '__le__': <slot wrapper '__le__' of 'int' objects>, '__eq__': <slot wrapper '__eq__' of 'int' objects>, '__ne__': <slot wrapper '__ne__' of 'int' objects>, '__gt__': <slot wrapper '__gt__' of 'int' objects>, '__ge__': <slot wrapper '__ge__' of 'int' objects>, '__add__': <slot wrapper '__add__' of 'int' objects>, '__radd__': <slot wrapper '__radd__' of 'int' objects>, '__sub__': <slot wrapper '__sub__' of 'int' objects>, '__rsub__': <slot wrapper '__rsub__' of 'int' objects>, '__mul__': <slot wrapper '__mul__' of 'int' objects>, '__rmul__': <slot wrapper '__rmul__' of 'int' objects>, '__mod__': <slot wrapper '__mod__' of 'int' objects>, '__rmod__': <slot wrapper '__rmod__' of 'int' objects>, '__divmod__': <slot wrapper '__divmod__' of 'int' objects>, '__rdivmod__': <slot wrapper '__rdivmod__' of 'int' objects>, '__pow__': <slot wrapper '__pow__' of 'int' objects>, '__rpow__': <slot wrapper '__rpow__' of 'int' objects>, '__neg__': <slot wrapper '__neg__' of 'int' objects>, '__pos__': <slot wrapper '__pos__' of 'int' objects>, '__abs__': <slot wrapper '__abs__' of 'int' objects>, '__bool__': <slot wrapper '__bool__' of 'int' objects>, '__invert__': <slot wrapper '__invert__' of 'int' objects>, '__lshift__': <slot wrapper '__lshift__' of 'int' objects>, '__rlshift__': <slot wrapper '__rlshift__' of 'int' objects>, '__rshift__': <slot wrapper '__rshift__' of 'int' objects>, '__rrshift__': <slot wrapper '__rrshift__' of 'int' objects>, '__and__': <slot wrapper '__and__' of 'int' objects>, '__rand__': <slot wrapper '__rand__' of 'int' objects>, '__xor__': <slot wrapper '__xor__' of 'int' objects>, '__rxor__': <slot wrapper '__rxor__' of 'int' objects>, '__or__': <slot wrapper '__or__' of 'int' objects>, '__ror__': <slot wrapper '__ror__' of 'int' objects>, '__int__': <slot wrapper '__int__' of 'int' objects>, '__float__': <slot wrapper '__float__' of 'int' objects>, '__floordiv__': <slot wrapper '__floordiv__' of 'int' objects>, '__rfloordiv__': <slot wrapper '__rfloordiv__' of 'int' objects>, '__truediv__': <slot wrapper '__truediv__' of 'int' objects>, '__rtruediv__': <slot wrapper '__rtruediv__' of 'int' objects>, '__index__': <slot wrapper '__index__' of 'int' objects>, 'conjugate': <method 'conjugate' of 'int' objects>, 'bit_length': <method 'bit_length' of 'int' objects>, 'bit_count': <method 'bit_count' of 'int' objects>, 'to_bytes': <method 'to_bytes' of 'int' objects>, 'from_bytes': <method 'from_bytes' of 'int' objects>, 'as_integer_ratio': <method 'as_integer_ratio' of 'int' objects>, '__trunc__': <method '__trunc__' of 'int' objects>, '__floor__': <method '__floor__' of 'int' objects>, '__ceil__': <method '__ceil__' of 'int' objects>, '__round__': <method '__round__' of 'int' objects>, '__getnewargs__': <method '__getnewargs__' of 'int' objects>, '__format__': <method '__format__' of 'int' objects>, '__sizeof__': <method '__sizeof__' of 'int' objects>, 'real': <attribute 'real' of 'int' objects>, 'imag': <attribute 'imag' of 'int' objects>, 'numerator': <attribute 'numerator' of 'int' objects>, 'denominator': <attribute 'denominator' of 'int' objects>, '__doc__': \"int([x]) -> integer\\nint(x, base=10) -> integer\\n\\nConvert a number or string to an integer, or return 0 if no arguments\\nare given.  If x is a number, return x.__int__().  For floating point\\nnumbers, this truncates towards zero.\\n\\nIf x is not a number or if base is given, then x must be a string,\\nbytes, or bytearray instance representing an integer literal in the\\ngiven base.  The literal can be preceded by '+' or '-' and be surrounded\\nby whitespace.  The base defaults to 10.  Valid bases are 0 and 2-36.\\nBase 0 means to interpret the base from the string as an integer literal.\\n>>> int('0b100', base=0)\\n4\"\x7d)",
  "int([x]) -> integer\nint(x, base=10) -> integer\n\nConvert a number or string to an integer, or return 0 if no arguments\nare given.  If x is a number, return x.__int__().  For floating point\nnumbers, this truncates towards zero.\n\nIf x is not a number or if base is given, then x must be a string,\nbytes, or bytearray instance representing an integer literal in the\ngiven base.  The literal can be preceded by '+' or '-' and be surrounded\nby whitespace.  The base defaults to 10.  Valid bases are 0 and 2-36.\nBase 0 means to interpret the base from the string as an integer literal.\n>>> int('0b100', base=0)\n4",
  "int",
  "type object 'float' has no attribute '__annotations__'",
  "Return the ceiling as an Integral.",
  "mappingproxy(\x7b'__new__': <built-in method __new__ of type object at 0x7f3983c2ca10>, '__repr__': <slot wrapper '__repr__' of 'float' objects>, '__hash__': <slot wrapper '__hash__' of 'float' objects>, '__getattribute__': <slot wrapper '__getattribute__' of 'float' objects>, '__lt__': <slot wrapper '__lt__' of 'float' objects>, '__le__': <slot wrapper '__le__' of 'float' objects>, '__eq__': <slot wrapper '__eq__' of 'float' objects>, '__ne__': <slot wrapper '__ne__' of 'float' objects>, '__gt__': <slot wrapper '__gt__' of 'float' objects>, '__ge__': <slot wrapper '__ge__' of 'float' objects>, '__add__': <slot wrapper '__add__' of 'float' objects>, '__radd__': <slot wrapper '__radd__' of 'float' objects>, '__sub__': <slot wrapper '__sub__' of 'float' objects>, '__rsub__': <slot wrapper '__rsub__' of 'float' objects>, '__mul__': <slot wrapper '__mul__' of 'float' objects>, '__rmul__': <slot wrapper '__rmul__' of 'float' objects>, '__mod__': <slot wrapper '__mod__' of 'float' objects>, '__rmod__': <slot wrapper '__rmod__' of 'float' objects>, '__divmod__': <slot wrapper '__divmod__' of 'float' objects>, '__rdivmod__': <slot wrapper '__rdivmod__' of 'float' objects>, '__pow__': <slot wrapper '__pow__' of 'float' objects>, '__rpow__': <slot wrapper '__rpow__' of 'float' objects>, '__neg__': <slot wrapper '__neg__' of 'float' objects>, '__pos__': <slot wrapper '__pos__' of 'float' objects>, '__abs__': <slot wrapper '__abs__' of 'float' objects>, '__bool__': <slot wrapper '__bool__' of 'float' objects>, '__int__': <slot wrapper '__int__' of 'float' objects>, '__float__': <slot wrapper '__float__' of 'float' objects>, '__floordiv__': <slot wrapper '__floordiv__' of 'float' objects>, '__rfloordiv__': <slot wrapper '__rfloordiv__' of 'float' objects>, '__truediv__': <slot wrapper '__truediv__' of 'float' objects>, '__rtruediv__': <slot wrapper '__rtruediv__' of 'float' objects>, 'conjugate': <method 'conjugate' of 'float' objects>, '__trunc__': <method '__trunc__' of 'float' objects>, '__floor__': <method '__floor__' of 'float' objects>, '__ceil__': <method '__ceil__' of 'float' objects>, '__round__': <method '__round__' of 'float' objects>, 'as_integer_ratio': <method 'as_integer_ratio' of 'float' objects>, 'fromhex': <method 'fromhex' of 'float' objects>, 'hex': <method 'hex' of 'float' objects>, 'is_integer': <method 'is_integer' of 'float' objects>, '__getnewargs__': <method '__getnewargs__' of 'float' objects>, '__getformat__': <method '__getformat__' of 'float' objects>, '__format__': <method '__format__' of 'float' objects>, 'real': <attribute 'real' of 'float' objects>, 'imag': <attribute 'imag' of 'float' objects>, '__doc__': 'Convert a string or number to a floating point number, if possible.'\x7d)",
  "Convert a string or number to a floating point number, if possible.",
  "Return the floor as an Integral.",
  "Formats the float according to format_spec.",
  "You probably don't want to use this function.\n\n  typestr\n    Must be 'double' or 'float'.\n\nIt exists mainly to be used in Python's test suite.\n\nThis function returns whichever of 'unknown', 'IEEE, big-endian' or 'IEEE,\nlittle-endian' best describes the format of floating point numbers used by the\nC type named by typestr.",
  "($type, typestr, /)",
  "float",
  "Return the Integral closest to x, rounding half toward even.\n\nWhen an argument is passed, work like built-in round(x, ndigits).",
  "($self, ndigits=None, /)",
  "(x=0, /)",
  "Return the Integral closest to x between 0 and x.",
  "Return integer ratio.\n\nReturn a pair of integers, whose ratio is exactly equal to the original float\nand with a positive denominator.\n\nRaise OverflowError on infinities and a ValueError on NaNs.\n\n>>> (10.0).as_integer_ratio()\n(10, 1)\n>>> (0.0).as_integer_ratio()\n(0, 1)\n>>> (-.25).as_integer_ratio()\n(-1, 4)",
  "Return self, the complex conjugate of any float.",
  "Create a floating-point number from a hexadecimal string.\n\n>>> float.fromhex('0x1.ffffp10')\n2047.984375\n>>> float.fromhex('-0x1p-1074')\n-5e-324",
  "($type, string, /)",
  "Return a hexadecimal representation of a floating-point number.\n\n>>> (-0.1).hex()\n'-0x1.999999999999ap-4'\n>>> 3.14159.hex()\n'0x1.921f9f01b866ep+1'",
  "Return True if the float is an integer.",
  "type object 'str' has no attribute '__annotations__'",
  "Return key in self.",
  "($self, key, /)",
  "mappingproxy(\x7b'__new__': <built-in method __new__ of type object at 0x7f3983c91cd8>, '__repr__': <slot wrapper '__repr__' of 'str' objects>, '__hash__': <slot wrapper '__hash__' of 'str' objects>, '__str__': <slot wrapper '__str__' of 'str' objects>, '__getattribute__': <slot wrapper '__getattribute__' of 'str' objects>, '__lt__': <slot wrapper '__lt__' of 'str' objects>, '__le__': <slot wrapper '__le__' of 'str' objects>, '__eq__': <slot wrapper '__eq__' of 'str' objects>, '__ne__': <slot wrapper '__ne__' of 'str' objects>, '__gt__': <slot wrapper '__gt__' of 'str' objects>, '__ge__': <slot wrapper '__ge__' of 'str' objects>, '__iter__': <slot wrapper '__iter__' of 'str' objects>, '__mod__': <slot wrapper '__mod__' of 'str' objects>, '__rmod__': <slot wrapper '__rmod__' of 'str' objects>, '__len__': <slot wrapper '__len__' of 'str' objects>, '__getitem__': <slot wrapper '__getitem__' of 'str' objects>, '__add__': <slot wrapper '__add__' of 'str' objects>, '__mul__': <slot wrapper '__mul__' of 'str' objects>, '__rmul__': <slot wrapper '__rmul__' of 'str' objects>, '__contains__': <slot wrapper '__contains__' of 'str' objects>, 'encode': <method 'encode' of 'str' objects>, 'replace': <method 'replace' of 'str' objects>, 'split': <method 'split' of 'str' objects>, 'rsplit': <method 'rsplit' of 'str' objects>, 'join': <method 'join' of 'str' objects>, 'capitalize': <method 'capitalize' of 'str' objects>, 'casefold': <method 'casefold' of 'str' objects>, 'title': <method 'title' of 'str' objects>, 'center': <method 'center' of 'str' objects>, 'count': <method 'count' of 'str' objects>, 'expandtabs': <method 'expandtabs' of 'str' objects>, 'find': <method 'find' of 'str' objects>, 'partition': <method 'partition' of 'str' objects>, 'index': <method 'index' of 'str' objects>, 'ljust': <method 'ljust' of 'str' objects>, 'lower': <method 'lower' of 'str' objects>, 'lstrip': <method 'lstrip' of 'str' objects>, 'rfind': <method 'rfind' of 'str' objects>, 'rindex': <method 'rindex' of 'str' objects>, 'rjust': <method 'rjust' of 'str' objects>, 'rstrip': <method 'rstrip' of 'str' objects>, 'rpartition': <method 'rpartition' of 'str' objects>, 'splitlines': <method 'splitlines' of 'str' objects>, 'strip': <method 'strip' of 'str' objects>, 'swapcase': <method 'swapcase' of 'str' objects>, 'translate': <method 'translate' of 'str' objects>, 'upper': <method 'upper' of 'str' objects>, 'startswith': <method 'startswith' of 'str' objects>, 'endswith': <method 'endswith' of 'str' objects>, 'removeprefix': <method 'removeprefix' of 'str' objects>, 'removesuffix': <method 'removesuffix' of 'str' objects>, 'isascii': <method 'isascii' of 'str' objects>, 'islower': <method 'islower' of 'str' objects>, 'isupper': <method 'isupper' of 'str' objects>, 'istitle': <method 'istitle' of 'str' objects>, 'isspace': <method 'isspace' of 'str' objects>, 'isdecimal': <method 'isdecimal' of 'str' objects>, 'isdigit': <method 'isdigit' of 'str' objects>, 'isnumeric': <method 'isnumeric' of 'str' objects>, 'isalpha': <method 'isalpha' of 'str' objects>, 'isalnum': <method 'isalnum' of 'str' objects>, 'isidentifier': <method 'isidentifier' of 'str' objects>, 'isprintable': <method 'isprintable' of 'str' objects>, 'zfill': <method 'zfill' of 'str' objects>, 'format': <method 'format' of 'str' objects>, 'format_map': <method 'format_map' of 'str' objects>, '__format__': <method '__format__' of 'str' objects>, 'maketrans': <staticmethod(<built-in method maketrans of type object at 0x7f3983c91cd8>)>, '__sizeof__': <method '__sizeof__' of 'str' objects>, '__getnewargs__': <method '__getnewargs__' of 'str' objects>, '__doc__': \"str(object='') -> str\\nstr(bytes_or_buffer[, encoding[, errors]]) -> str\\n\\nCreate a new string object from the given object. If encoding or\\nerrors is specified, then the object must expose a data buffer\\nthat will be decoded using the given encoding and error handler.\\nOtherwise, returns the result of object.__str__() (if defined)\\nor repr(object).\\nencoding defaults to sys.getdefaultencoding().\\nerrors defaults to 'strict'.\"\x7d)",
  "str(object='') -> str\nstr(bytes_or_buffer[, encoding[, errors]]) -> str\n\nCreate a new string object from the given object. If encoding or\nerrors is specified, then the object must expose a data buffer\nthat will be decoded using the given encoding and error handler.\nOtherwise, returns the result of object.__str__() (if defined)\nor repr(object).\nencoding defaults to sys.getdefaultencoding().\nerrors defaults to 'strict'.",
  "Return a formatted version of the string as described by format_spec.",
  "Return self[key].",
  "Implement iter(self).",
  "Return len(self).",
  "str",
  "Return the size of the string in memory, in bytes.",
  "Return a capitalized version of the string.\n\nMore specifically, make the first character have upper case and the rest lower\ncase.",
  "Return a version of the string suitable for caseless comparisons.",
  "Return a centered string of length width.\n\nPadding is done using the specified fill character (default is a space).",
  "($self, width, fillchar=' ', /)",
  "S.count(sub[, start[, end]]) -> int\n\nReturn the number of non-overlapping occurrences of substring sub in\nstring S[start:end].  Optional arguments start and end are\ninterpreted as in slice notation.",
  "Encode the string using the codec registered for encoding.\n\n  encoding\n    The encoding in which to encode the string.\n  errors\n    The error handling scheme to use for encoding errors.\n    The default is 'strict' meaning that encoding errors raise a\n    UnicodeEncodeError.  Other possible values are 'ignore', 'replace' and\n    'xmlcharrefreplace' as well as any other name registered with\n    codecs.register_error that can handle UnicodeEncodeErrors.",
  "($self, /, encoding='utf-8', errors='strict')",
  "S.endswith(suffix[, start[, end]]) -> bool\n\nReturn True if S ends with the specified suffix, False otherwise.\nWith optional start, test S beginning at that position.\nWith optional end, stop comparing S at that position.\nsuffix can also be a tuple of strings to try.",
  "Return a copy where all tab characters are expanded using spaces.\n\nIf tabsize is not given, a tab size of 8 characters is assumed.",
  "($self, /, tabsize=8)",
  "S.find(sub[, start[, end]]) -> int\n\nReturn the lowest index in S where substring sub is found,\nsuch that sub is contained within S[start:end].  Optional\narguments start and end are interpreted as in slice notation.\n\nReturn -1 on failure.",
  "S.format(*args, **kwargs) -> str\n\nReturn a formatted version of S, using substitutions from args and kwargs.\nThe substitutions are identified by braces ('\x7b' and '\x7d').",
  "S.format_map(mapping) -> str\n\nReturn a formatted version of S, using substitutions from mapping.\nThe substitutions are identified by braces ('\x7b' and '\x7d').",
  "S.index(sub[, start[, end]]) -> int\n\nReturn the lowest index in S where substring sub is found,\nsuch that sub is contained within S[start:end].  Optional\narguments start and end are interpreted as in slice notation.\n\nRaises ValueError when the substring is not found.",
  "Return True if the string is an alpha-numeric string, False otherwise.\n\nA string is alpha-numeric if all characters in the string are alpha-numeric and\nthere is at least one character in the string.",
  "Return True if the string is an alphabetic string, False otherwise.\n\nA string is alphabetic if all characters in the string are alphabetic and there\nis at least one character in the string.",
  "Return True if all characters in the string are ASCII, False otherwise.\n\nASCII characters have code points in the range U+0000-U+007F.\nEmpty string is ASCII too.",
  "Return True if the string is a decimal string, False otherwise.\n\nA string is a decimal string if all characters in the string are decimal and\nthere is at least one character in the string.",
  "Return True if the string is a digit string, False otherwise.\n\nA string is a digit string if all characters in the string are digits and there\nis at least one character in the string.",
  "Return True if the string is a valid Python identifier, False otherwise.\n\nCall keyword.iskeyword(s) to test whether string s is a reserved identifier,\nsuch as \"def\" or \"class\".",
  "Return True if the string is a lowercase string, False otherwise.\n\nA string is lowercase if all cased characters in the string are lowercase and\nthere is at least one cased character in the string.",
  "Return True if the string is a numeric string, False otherwise.\n\nA string is numeric if all characters in the string are numeric and there is at\nleast one character in the string.",
  "Return True if the string is printable, False otherwise.\n\nA string is printable if all of its characters are considered printable in\nrepr() or if it is empty.",
  "Return True if the string is a whitespace string, False otherwise.\n\nA string is whitespace if all characters in the string are whitespace and there\nis at least one character in the string.",
  "Return True if the string is a title-cased string, False otherwise.\n\nIn a title-cased string, upper- and title-case characters may only\nfollow uncased characters and lowercase characters only cased ones.",
  "Return True if the string is an uppercase string, False otherwise.\n\nA string is uppercase if all cased characters in the string are uppercase and\nthere is at least one cased character in the string.",
  "Concatenate any number of strings.\n\nThe string whose method is called is inserted in between each given string.\nThe result is returned as a new string.\n\nExample: '.'.join(['ab', 'pq', 'rs']) -> 'ab.pq.rs'",
  "($self, iterable, /)",
  "Return a left-justified string of length width.\n\nPadding is done using the specified fill character (default is a space).",
  "Return a copy of the string converted to lowercase.",
  "Return a copy of the string with leading whitespace removed.\n\nIf chars is given and not None, remove characters in chars instead.",
  "($self, chars=None, /)",
  "Return a translation table usable for str.translate().\n\nIf there is only one argument, it must be a dictionary mapping Unicode\nordinals (integers) or characters to Unicode ordinals, strings or None.\nCharacter keys will be then converted to ordinals.\nIf there are two arguments, they must be strings of equal length, and\nin the resulting dictionary, each character in x will be mapped to the\ncharacter at the same position in y. If there is a third argument, it\nmust be a string, whose characters will be mapped to None in the result.",
  "(x, y=<unrepresentable>, z=<unrepresentable>, /)",
  "Partition the string into three parts using the given separator.\n\nThis will search for the separator in the string.  If the separator is found,\nreturns a 3-tuple containing the part before the separator, the separator\nitself, and the part after it.\n\nIf the separator is not found, returns a 3-tuple containing the original string\nand two empty strings.",
  "($self, sep, /)",
  "Return a str with the given prefix string removed if present.\n\nIf the string starts with the prefix string, return string[len(prefix):].\nOtherwise, return a copy of the original string.",
  "($self, prefix, /)",
  "Return a str with the given suffix string removed if present.\n\nIf the string ends with the suffix string and that suffix is not empty,\nreturn string[:-len(suffix)]. Otherwise, return a copy of the original\nstring.",
  "($self, suffix, /)",
  "Return a copy with all occurrences of substring old replaced by new.\n\n  count\n    Maximum number of occurrences to replace.\n    -1 (the default value) means replace all occurrences.\n\nIf the optional argument count is given, only the first count occurrences are\nreplaced.",
  "($self, old, new, count=-1, /)",
  "S.rfind(sub[, start[, end]]) -> int\n\nReturn the highest index in S where substring sub is found,\nsuch that sub is contained within S[start:end].  Optional\narguments start and end are interpreted as in slice notation.\n\nReturn -1 on failure.",
  "S.rindex(sub[, start[, end]]) -> int\n\nReturn the highest index in S where substring sub is found,\nsuch that sub is contained within S[start:end].  Optional\narguments start and end are interpreted as in slice notation.\n\nRaises ValueError when the substring is not found.",
  "Return a right-justified string of length width.\n\nPadding is done using the specified fill character (default is a space).",
  "Partition the string into three parts using the given separator.\n\nThis will search for the separator in the string, starting at the end. If\nthe separator is found, returns a 3-tuple containing the part before the\nseparator, the separator itself, and the part after it.\n\nIf the separator is not found, returns a 3-tuple containing two empty strings\nand the original string.",
  "Return a list of the substrings in the string, using sep as the separator string.\n\n  sep\n    The separator used to split the string.\n\n    When set to None (the default value), will split on any whitespace\n    character (including \\n \\r \\t \\f and spaces) and will discard\n    empty strings from the result.\n  maxsplit\n    Maximum number of splits.\n    -1 (the default value) means no limit.\n\nSplitting starts at the end of the string and works to the front.",
  "($self, /, sep=None, maxsplit=-1)",
  "Return a copy of the string with trailing whitespace removed.\n\nIf chars is given and not None, remove characters in chars instead.",
  "Return a list of the substrings in the string, using sep as the separator string.\n\n  sep\n    The separator used to split the string.\n\n    When set to None (the default value), will split on any whitespace\n    character (including \\n \\r \\t \\f and spaces) and will discard\n    empty strings from the result.\n  maxsplit\n    Maximum number of splits.\n    -1 (the default value) means no limit.\n\nSplitting starts at the front of the string and works to the end.\n\nNote, str.split() is mainly useful for data that has been intentionally\ndelimited.  With natural text that includes punctuation, consider using\nthe regular expression module.",
  "Return a list of the lines in the string, breaking at line boundaries.\n\nLine breaks are not included in the resulting list unless keepends is given and\ntrue.",
  "($self, /, keepends=False)",
  "S.startswith(prefix[, start[, end]]) -> bool\n\nReturn True if S starts with the specified prefix, False otherwise.\nWith optional start, test S beginning at that position.\nWith optional end, stop comparing S at that position.\nprefix can also be a tuple of strings to try.",
  "Return a copy of the string with leading and trailing whitespace removed.\n\nIf chars is given and not None, remove characters in chars instead.",
  "Convert uppercase characters to lowercase and lowercase characters to uppercase.",
  "Return a version of the string where each word is titlecased.\n\nMore specifically, words start with uppercased characters and all remaining\ncased characters have lower case.",
  "Replace each character in the string using the given translation table.\n\n  table\n    Translation table, which must be a mapping of Unicode ordinals to\n    Unicode ordinals, strings, or None.\n\nThe table must implement lookup/indexing via __getitem__, for instance a\ndictionary or list.  If this operation raises LookupError, the character is\nleft untouched.  Characters mapped to None are deleted.",
  "($self, table, /)",
  "Return a copy of the string converted to uppercase.",
  "Pad a numeric string with zeros on the left, to fill a field of the given width.\n\nThe string is never truncated.",
  "($self, width, /)",
  "type object 'list' has no attribute '__annotations__'",
  "See PEP 585",
  "Delete self[key].",
  "mappingproxy(\x7b'__new__': <built-in method __new__ of type object at 0x7f3983c3d460>, '__repr__': <slot wrapper '__repr__' of 'list' objects>, '__hash__': None, '__getattribute__': <slot wrapper '__getattribute__' of 'list' objects>, '__lt__': <slot wrapper '__lt__' of 'list' objects>, '__le__': <slot wrapper '__le__' of 'list' objects>, '__eq__': <slot wrapper '__eq__' of 'list' objects>, '__ne__': <slot wrapper '__ne__' of 'list' objects>, '__gt__': <slot wrapper '__gt__' of 'list' objects>, '__ge__': <slot wrapper '__ge__' of 'list' objects>, '__iter__': <slot wrapper '__iter__' of 'list' objects>, '__init__': <slot wrapper '__init__' of 'list' objects>, '__len__': <slot wrapper '__len__' of 'list' objects>, '__getitem__': <method '__getitem__' of 'list' objects>, '__setitem__': <slot wrapper '__setitem__' of 'list' objects>, '__delitem__': <slot wrapper '__delitem__' of 'list' objects>, '__add__': <slot wrapper '__add__' of 'list' objects>, '__mul__': <slot wrapper '__mul__' of 'list' objects>, '__rmul__': <slot wrapper '__rmul__' of 'list' objects>, '__contains__': <slot wrapper '__contains__' of 'list' objects>, '__iadd__': <slot wrapper '__iadd__' of 'list' objects>, '__imul__': <slot wrapper '__imul__' of 'list' objects>, '__reversed__': <method '__reversed__' of 'list' objects>, '__sizeof__': <method '__sizeof__' of 'list' objects>, 'clear': <method 'clear' of 'list' objects>, 'copy': <method 'copy' of 'list' objects>, 'append': <method 'append' of 'list' objects>, 'insert': <method 'insert' of 'list' objects>, 'extend': <method 'extend' of 'list' objects>, 'pop': <method 'pop' of 'list' objects>, 'remove': <method 'remove' of 'list' objects>, 'index': <method 'index' of 'list' objects>, 'count': <method 'count' of 'list' objects>, 'reverse': <method 'reverse' of 'list' objects>, 'sort': <method 'sort' of 'list' objects>, '__class_getitem__': <method '__class_getitem__' of 'list' objects>, '__doc__': 'Built-in mutable sequence.\\n\\nIf no argument is given, the constructor creates a new empty list.\\nThe argument must be an iterable if specified.'\x7d)",
  "Built-in mutable sequence.\n\nIf no argument is given, the constructor creates a new empty list.\nThe argument must be an iterable if specified.",
  "x.__getitem__(y) <==> x[y]",
  "Implement self+=value.",
  "Implement self*=value.",
  "list",
  "Return a reverse iterator over the list.",
  "Set self[key] to value.",
  "($self, key, value, /)",
  "Return the size of the list in memory, in bytes.",
  "(iterable=(), /)",
  "Append object to the end of the list.",
  "($self, object, /)",
  "Remove all items from list.",
  "Return a shallow copy of the list.",
  "Return number of occurrences of value.",
  "Extend list by appending elements from the iterable.",
  "Return first index of value.\n\nRaises ValueError if the value is not present.",
  "($self, value, start=0, stop=sys.maxsize, /)",
  "Insert object before index.",
  "($self, index, object, /)",
  "Remove and return item at index (default last).\n\nRaises IndexError if list is empty or index is out of range.",
  "($self, index=-1, /)",
  "Remove first occurrence of value.\n\nRaises ValueError if the value is not present.",
  "Reverse *IN PLACE*.",
  "Sort the list in ascending order and return None.\n\nThe sort is in-place (i.e. the list itself is modified) and stable (i.e. the\norder of two equal elements is maintained).\n\nIf a key function is given, apply it once to each list item and sort them,\nascending or descending, according to their function values.\n\nThe reverse flag can be set to sort in descending order.",
  "($self, /, *, key=None, reverse=False)",
  "type object 'dict' has no attribute '__annotations__'",
  "True if the dictionary has the specified key, else False.",
  "mappingproxy(\x7b'__new__': <built-in method __new__ of type object at 0x7f3983c40730>, '__repr__': <slot wrapper '__repr__' of 'dict' objects>, '__hash__': None, '__getattribute__': <slot wrapper '__getattribute__' of 'dict' objects>, '__lt__': <slot wrapper '__lt__' of 'dict' objects>, '__le__': <slot wrapper '__le__' of 'dict' objects>, '__eq__': <slot wrapper '__eq__' of 'dict' objects>, '__ne__': <slot wrapper '__ne__' of 'dict' objects>, '__gt__': <slot wrapper '__gt__' of 'dict' objects>, '__ge__': <slot wrapper '__ge__' of 'dict' objects>, '__iter__': <slot wrapper '__iter__' of 'dict' objects>, '__init__': <slot wrapper '__init__' of 'dict' objects>, '__or__': <slot wrapper '__or__' of 'dict' objects>, '__ror__': <slot wrapper '__ror__' of 'dict' objects>, '__ior__': <slot wrapper '__ior__' of 'dict' objects>, '__len__': <slot wrapper '__len__' of 'dict' objects>, '__getitem__': <method '__getitem__' of 'dict' objects>, '__setitem__': <slot wrapper '__setitem__' of 'dict' objects>, '__delitem__': <slot wrapper '__delitem__' of 'dict' objects>, '__contains__': <method '__contains__' of 'dict' objects>, '__sizeof__': <method '__sizeof__' of 'dict' objects>, 'get': <method 'get' of 'dict' objects>, 'setdefault': <method 'setdefault' of 'dict' objects>, 'pop': <method 'pop' of 'dict' objects>, 'popitem': <method 'popitem' of 'dict' objects>, 'keys': <method 'keys' of 'dict' objects>, 'items': <method 'items' of 'dict' objects>, 'values': <method 'values' of 'dict' objects>, 'update': <method 'update' of 'dict' objects>, 'fromkeys': <method 'fromkeys' of 'dict' objects>, 'clear': <method 'clear' of 'dict' objects>, 'copy': <method 'copy' of 'dict' objects>, '__reversed__': <method '__reversed__' of 'dict' objects>, '__class_getitem__': <method '__class_getitem__' of 'dict' objects>, '__doc__': \"dict() -> new empty dictionary\\ndict(mapping) -> new dictionary initialized from a mapping object's\\n    (key, value) pairs\\ndict(iterable) -> new dictionary initialized as if via:\\n    d = \x7b\x7d\\n    for k, v in iterable:\\n        d[k] = v\\ndict(**kwargs) -> new dictionary initialized with the name=value pairs\\n    in the keyword argument list.  For example:  dict(one=1, two=2)\"\x7d)",
  "dict() -> new empty dictionary\ndict(mapping) -> new dictionary initialized from a mapping object's\n    (key, value) pairs\ndict(iterable) -> new dictionary initialized as if via:\n    d = \x7b\x7d\n    for k, v in iterable:\n        d[k] = v\ndict(**kwargs) -> new dictionary initialized with the name=value pairs\n    in the keyword argument list.  For example:  dict(one=1, two=2)",
  "Return self|=value.",
  "dict",
  "Return a reverse iterator over the dict keys.",
  "D.__sizeof__() -> size of D in memory, in bytes",
  "D.clear() -> None.  Remove all items from D.",
  "D.copy() -> a shallow copy of D",
  "Create a new dictionary with keys from iterable and values set to value.",
  "($type, iterable, value=None, /)",
  "Return the value for key if key is in the dictionary, else default.",
  "($self, key, default=None, /)",
  "D.items() -> a set-like object providing a view on D's items",
  "D.keys() -> a set-like object providing a view on D's keys",
  "D.pop(k[,d]) -> v, remove specified key and return the corresponding value.\n\nIf the key is not found, return the default if given; otherwise,\nraise a KeyError.",
  "($self, key, default=<unrepresentable>, /)",
  "Remove and return a (key, value) pair as a 2-tuple.\n\nPairs are returned in LIFO (last-in, first-out) order.\nRaises KeyError if the dict is empty.",
  "Insert key with a value of default if key is not in the dictionary.\n\nReturn the value for key if key is in the dictionary, else default.",
  "D.update([E, ]**F) -> None.  Update D from dict/iterable E and F.\nIf E is present and has a .keys() method, then does:  for k in E: D[k] = E[k]\nIf E is present and lacks a .keys() method, then does:  for k, v in E: D[k] = v\nIn either case, this is followed by: for k in F:  D[k] = F[k]",
  "D.values() -> an object providing a view on D's values",
  "type object 'tuple' has no attribute '__annotations__'",
  "mappingproxy(\x7b'__new__': <built-in method __new__ of type object at 0x7f3983c88558>, '__repr__': <slot wrapper '__repr__' of 'tuple' objects>, '__hash__': <slot wrapper '__hash__' of 'tuple' objects>, '__getattribute__': <slot wrapper '__getattribute__' of 'tuple' objects>, '__lt__': <slot wrapper '__lt__' of 'tuple' objects>, '__le__': <slot wrapper '__le__' of 'tuple' objects>, '__eq__': <slot wrapper '__eq__' of 'tuple' objects>, '__ne__': <slot wrapper '__ne__' of 'tuple' objects>, '__gt__': <slot wrapper '__gt__' of 'tuple' objects>, '__ge__': <slot wrapper '__ge__' of 'tuple' objects>, '__iter__': <slot wrapper '__iter__' of 'tuple' objects>, '__len__': <slot wrapper '__len__' of 'tuple' objects>, '__getitem__': <slot wrapper '__getitem__' of 'tuple' objects>, '__add__': <slot wrapper '__add__' of 'tuple' objects>, '__mul__': <slot wrapper '__mul__' of 'tuple' objects>, '__rmul__': <slot wrapper '__rmul__' of 'tuple' objects>, '__contains__': <slot wrapper '__contains__' of 'tuple' objects>, '__getnewargs__': <method '__getnewargs__' of 'tuple' objects>, 'index': <method 'index' of 'tuple' objects>, 'count': <method 'count' of 'tuple' objects>, '__class_getitem__': <method '__class_getitem__' of 'tuple' objects>, '__doc__': \"Built-in immutable sequence.\\n\\nIf no argument is given, the constructor returns an empty tuple.\\nIf iterable is specified the tuple is initialized from iterable's items.\\n\\nIf the argument is a tuple, the return value is the same object.\"\x7d)",
  "Built-in immutable sequence.\n\nIf no argument is given, the constructor returns an empty tuple.\nIf iterable is specified the tuple is initialized from iterable's items.\n\nIf the argument is a tuple, the return value is the same object.",
  "tuple",
  "type object 'type' has no attribute '__annotations__'",
  "mappingproxy(\x7b'__new__': <built-in method __new__ of type object at 0x7f3983c3d048>, '__repr__': <slot wrapper '__repr__' of 'type' objects>, '__call__': <slot wrapper '__call__' of 'type' objects>, '__getattribute__': <slot wrapper '__getattribute__' of 'type' objects>, '__setattr__': <slot wrapper '__setattr__' of 'type' objects>, '__delattr__': <slot wrapper '__delattr__' of 'type' objects>, '__init__': <slot wrapper '__init__' of 'type' objects>, '__or__': <slot wrapper '__or__' of 'type' objects>, '__ror__': <slot wrapper '__ror__' of 'type' objects>, 'mro': <method 'mro' of 'type' objects>, '__subclasses__': <method '__subclasses__' of 'type' objects>, '__prepare__': <method '__prepare__' of 'type' objects>, '__instancecheck__': <method '__instancecheck__' of 'type' objects>, '__subclasscheck__': <method '__subclasscheck__' of 'type' objects>, '__dir__': <method '__dir__' of 'type' objects>, '__sizeof__': <method '__sizeof__' of 'type' objects>, '__basicsize__': <member '__basicsize__' of 'type' objects>, '__itemsize__': <member '__itemsize__' of 'type' objects>, '__flags__': <member '__flags__' of 'type' objects>, '__weakrefoffset__': <member '__weakrefoffset__' of 'type' objects>, '__base__': <member '__base__' of 'type' objects>, '__dictoffset__': <member '__dictoffset__' of 'type' objects>, '__mro__': <member '__mro__' of 'type' objects>, '__name__': <attribute '__name__' of 'type' objects>, '__qualname__': <attribute '__qualname__' of 'type' objects>, '__bases__': <attribute '__bases__' of 'type' objects>, '__module__': <attribute '__module__' of 'type' objects>, '__abstractmethods__': <attribute '__abstractmethods__' of 'type' objects>, '__dict__': <attribute '__dict__' of 'type' objects>, '__doc__': <attribute '__doc__' of 'type' objects>, '__text_signature__': <attribute '__text_signature__' of 'type' objects>, '__annotations__': <attribute '__annotations__' of 'type' objects>\x7d)",
  "Specialized __dir__ implementation for types.",
  "type(object) -> the object's type\ntype(name, bases, dict, **kwds) -> a new type",
  "type",
  "Return memory consumption of the type object.",
  "type object 'object' has no attribute '__annotations__'",
  "mappingproxy(\x7b'__new__': <built-in method __new__ of type object at 0x7f3983c40240>, '__repr__': <slot wrapper '__repr__' of 'object' objects>, '__hash__': <slot wrapper '__hash__' of 'object' objects>, '__str__': <slot wrapper '__str__' of 'object' objects>, '__getattribute__': <slot wrapper '__getattribute__' of 'object' objects>, '__setattr__': <slot wrapper '__setattr__' of 'object' objects>, '__delattr__': <slot wrapper '__delattr__' of 'object' objects>, '__lt__': <slot wrapper '__lt__' of 'object' objects>, '__le__': <slot wrapper '__le__' of 'object' objects>, '__eq__': <slot wrapper '__eq__' of 'object' objects>, '__ne__': <slot wrapper '__ne__' of 'object' objects>, '__gt__': <slot wrapper '__gt__' of 'object' objects>, '__ge__': <slot wrapper '__ge__' of 'object' objects>, '__init__': <slot wrapper '__init__' of 'object' objects>, '__reduce_ex__': <method '__reduce_ex__' of 'object' objects>, '__reduce__': <method '__reduce__' of 'object' objects>, '__getstate__': <method '__getstate__' of 'object' objects>, '__subclasshook__': <method '__subclasshook__' of 'object' objects>, '__init_subclass__': <method '__init_subclass__' of 'object' objects>, '__format__': <method '__format__' of 'object' objects>, '__sizeof__': <method '__sizeof__' of 'object' objects>, '__dir__': <method '__dir__' of 'object' objects>, '__class__': <attribute '__class__' of 'object' objects>, '__doc__': 'The base class of the class hierarchy.\\n\\nWhen called, it accepts no arguments and returns a new featureless\\ninstance that has no instance attributes and cannot be given any.\\n'\x7d)",
  "The base class of the class hierarchy.\n\nWhen called, it accepts no arguments and returns a new featureless\ninstance that has no instance attributes and cannot be given any.\n",
  "object",
  "()",
  "type object 'builtin_function_or_method' has no attribute '__annotations__'",
  "mappingproxy(\x7b'__repr__': <slot wrapper '__repr__' of 'builtin_function_or_method' objects>, '__hash__': <slot wrapper '__hash__' of 'builtin_function_or_method' objects>, '__call__': <slot wrapper '__call__' of 'builtin_function_or_method' objects>, '__getattribute__': <slot wrapper '__getattribute__' of 'builtin_function_or_method' objects>, '__lt__': <slot wrapper '__lt__' of 'builtin_function_or_method' objects>, '__le__': <slot wrapper '__le__' of 'builtin_function_or_method' objects>, '__eq__': <slot wrapper '__eq__' of 'builtin_function_or_method' objects>, '__ne__': <slot wrapper '__ne__' of 'builtin_function_or_method' objects>, '__gt__': <slot wrapper '__gt__' of 'builtin_function_or_method' objects>, '__ge__': <slot wrapper '__ge__' of 'builtin_function_or_method' objects>, '__reduce__': <method '__reduce__' of 'builtin_function_or_method' objects>, '__module__': <member '__module__' of 'builtin_function_or_method' objects>, '__doc__': <attribute '__doc__' of 'builtin_function_or_method' objects>, '__name__': <attribute '__name__' of 'builtin_function_or_method' objects>, '__qualname__': <attribute '__qualname__' of 'builtin_function_or_method' objects>, '__self__': <attribute '__self__' of 'builtin_function_or_method' objects>, '__text_signature__': <attribute '__text_signature__' of 'builtin_function_or_method' objects>\x7d)",
  "builtin_function_or_method",
  "type object 'method-wrapper' has no attribute '__annotations__'",
  "mappingproxy(\x7b'__repr__': <slot wrapper '__repr__' of 'method-wrapper' objects>, '__hash__': <slot wrapper '__hash__' of 'method-wrapper' objects>, '__call__': <slot wrapper '__call__' of 'method-wrapper' objects>, '__getattribute__': <slot wrapper '__getattribute__' of 'method-wrapper' objects>, '__lt__': <slot wrapper '__lt__' of 'method-wrapper' objects>, '__le__': <slot wrapper '__le__' of 'method-wrapper' objects>, '__eq__': <slot wrapper '__eq__' of 'method-wrapper' objects>, '__ne__': <slot wrapper '__ne__' of 'method-wrapper' objects>, '__gt__': <slot wrapper '__gt__' of 'method-wrapper' objects>, '__ge__': <slot wrapper '__ge__' of 'method-wrapper' objects>, '__reduce__': <method '__reduce__' of 'method-wrapper' objects>, '__self__': <member '__self__' of 'method-wrapper' objects>, '__objclass__': <attribute '__objclass__' of 'method-wrapper' objects>, '__name__': <attribute '__name__' of 'method-wrapper' objects>, '__qualname__': <attribute '__qualname__' of 'method-wrapper' objects>, '__doc__': <attribute '__doc__' of 'method-wrapper' objects>, '__text_signature__': <attribute '__text_signature__' of 'method-wrapper' objects>\x7d)",
  "method-wrapper",
  "type object 'method_descriptor' has no attribute '__annotations__'",
  "mappingproxy(\x7b'__repr__': <slot wrapper '__repr__' of 'method_descriptor' objects>, '__call__': <slot wrapper '__call__' of 'method_descriptor' objects>, '__getattribute__': <slot wrapper '__getattribute__' of 'method_descriptor' objects>, '__get__': <slot wrapper '__get__' of 'method_descriptor' objects>, '__reduce__': <method '__reduce__' of 'method_descriptor' objects>, '__objclass__': <member '__objclass__' of 'method_descriptor' objects>, '__name__': <member '__name__' of 'method_descriptor' objects>, '__doc__': <attribute '__doc__' of 'method_descriptor' objects>, '__qualname__': <attribute '__qualname__' of 'method_descriptor' objects>, '__text_signature__': <attribute '__text_signature__' of 'method_descriptor' objects>\x7d)",
  "Return an attribute of instance, which is of type owner.",
  "($self, instance, owner=None, /)",
  "method_descriptor",
  "type object 'wrapper_descriptor' has no attribute '__annotations__'",
  "mappingproxy(\x7b'__repr__': <slot wrapper '__repr__' of 'wrapper_descriptor' objects>, '__call__': <slot wrapper '__call__' of 'wrapper_descriptor' objects>, '__getattribute__': <slot wrapper '__getattribute__' of 'wrapper_descriptor' objects>, '__get__': <slot wrapper '__get__' of 'wrapper_descriptor' objects>, '__reduce__': <method '__reduce__' of 'wrapper_descriptor' objects>, '__objclass__': <member '__objclass__' of 'wrapper_descriptor' objects>, '__name__': <member '__name__' of 'wrapper_descriptor' objects>, '__doc__': <attribute '__doc__' of 'wrapper_descriptor' objects>, '__qualname__': <attribute '__qualname__' of 'wrapper_descriptor' objects>, '__text_signature__': <attribute '__text_signature__' of 'wrapper_descriptor' objects>\x7d)",
  "wrapper_descriptor",
  "type object 'classmethod_descriptor' has no attribute '__annotations__'",
  "mappingproxy(\x7b'__repr__': <slot wrapper '__repr__' of 'classmethod_descriptor' objects>, '__call__': <slot wrapper '__call__' of 'classmethod_descriptor' objects>, '__getattribute__': <slot wrapper '__getattribute__' of 'classmethod_descriptor' objects>, '__get__': <slot wrapper '__get__' of 'classmethod_descriptor' objects>, '__objclass__': <member '__objclass__' of 'classmethod_descriptor' objects>, '__name__': <member '__name__' of 'classmethod_descriptor' objects>, '__doc__': <attribute '__doc__' of 'classmethod_descriptor' objects>, '__qualname__': <attribute '__qualname__' of 'classmethod_descriptor' objects>, '__text_signature__': <attribute '__text_signature__' of 'classmethod_descriptor' objects>\x7d)",
  "classmethod_descriptor",
  "type object 'getset_descriptor' has no attribute '__annotations__'",
  "Delete an attribute of instance.",
  "mappingproxy(\x7b'__repr__': <slot wrapper '__repr__' of 'getset_descriptor' objects>, '__getattribute__': <slot wrapper '__getattribute__' of 'getset_descriptor' objects>, '__get__': <slot wrapper '__get__' of 'getset_descriptor' objects>, '__set__': <slot wrapper '__set__' of 'getset_descriptor' objects>, '__delete__': <slot wrapper '__delete__' of 'getset_descriptor' objects>, '__objclass__': <member '__objclass__' of 'getset_descriptor' objects>, '__name__': <member '__name__' of 'getset_descriptor' objects>, '__doc__': <attribute '__doc__' of 'getset_descriptor' objects>, '__qualname__': <attribute '__qualname__' of 'getset_descriptor' objects>\x7d)",
  "getset_descriptor",
  "Set an attribute of instance to value.",
  "($self, instance, value, /)",
  "type object 'member_descriptor' has no attribute '__annotations__'",
  "mappingproxy(\x7b'__repr__': <slot wrapper '__repr__' of 'member_descriptor' objects>, '__getattribute__': <slot wrapper '__getattribute__' of 'member_descriptor' objects>, '__get__': <slot wrapper '__get__' of 'member_descriptor' objects>, '__set__': <slot wrapper '__set__' of 'member_descriptor' objects>, '__delete__': <slot wrapper '__delete__' of 'member_descriptor' objects>, '__reduce__': <method '__reduce__' of 'member_descriptor' objects>, '__objclass__': <member '__objclass__' of 'member_descriptor' objects>, '__name__': <member '__name__' of 'member_descriptor' objects>, '__doc__': <attribute '__doc__' of 'member_descriptor' objects>, '__qualname__': <attribute '__qualname__' of 'member_descriptor' objects>\x7d)",
  "member_descriptor",
  "type object 'mappingproxy' has no attribute '__annotations__'",
  "mappingproxy(\x7b'__new__': <built-in method __new__ of type object at 0x7f3983c02658>, '__repr__': <slot wrapper '__repr__' of 'mappingproxy' objects>, '__str__': <slot wrapper '__str__' of 'mappingproxy' objects>, '__getattribute__': <slot wrapper '__getattribute__' of 'mappingproxy' objects>, '__lt__': <slot wrapper '__lt__' of 'mappingproxy' objects>, '__le__': <slot wrapper '__le__' of 'mappingproxy' objects>, '__eq__': <slot wrapper '__eq__' of 'mappingproxy' objects>, '__ne__': <slot wrapper '__ne__' of 'mappingproxy' objects>, '__gt__': <slot wrapper '__gt__' of 'mappingproxy' objects>, '__ge__': <slot wrapper '__ge__' of 'mappingproxy' objects>, '__iter__': <slot wrapper '__iter__' of 'mappingproxy' objects>, '__or__': <slot wrapper '__or__' of 'mappingproxy' objects>, '__ror__': <slot wrapper '__ror__' of 'mappingproxy' objects>, '__ior__': <slot wrapper '__ior__' of 'mappingproxy' objects>, '__len__': <slot wrapper '__len__' of 'mappingproxy' objects>, '__getitem__': <slot wrapper '__getitem__' of 'mappingproxy' objects>, '__contains__': <slot wrapper '__contains__' of 'mappingproxy' objects>, 'get': <method 'get' of 'mappingproxy' objects>, 'keys': <method 'keys' of 'mappingproxy' objects>, 'values': <method 'values' of 'mappingproxy' objects>, 'items': <method 'items' of 'mappingproxy' objects>, 'copy': <method 'copy' of 'mappingproxy' objects>, '__class_getitem__': <method '__class_getitem__' of 'mappingproxy' objects>, '__reversed__': <method '__reversed__' of 'mappingproxy' objects>, '__doc__': None, '__hash__': None\x7d)",
  "mappingproxy",
  "D.__reversed__() -> reverse iterator",
  "D.get(k[,d]) -> D[k] if k in D, else d.  d defaults to None."
]

/-- One row per attribute of a type; see the module notes. -/
def attributeRows : List String := [
  "NoneType __abstractmethods__ C m 0",
  "NoneType __annotations__ C m 1",
  "NoneType __base__ C y object",
  "NoneType __bases__ C u object",
  "NoneType __basicsize__ C n 16",
  "NoneType __bool__ A d wd __bool__ NoneType 2 3",
  "NoneType __call__ C b mw __call__ type.__call__ 4 5 T:NoneType",
  "NoneType __class__ A y type",
  "NoneType __delattr__ A d wd __delattr__ object 6 7",
  "NoneType __dict__ C o mappingproxy 8",
  "NoneType __dictoffset__ C n 0",
  "NoneType __dir__ A d md __dir__ object 9 3",
  "NoneType __doc__ A z",
  "NoneType __eq__ A d wd __eq__ object 10 11",
  "NoneType __flags__ C n 528640",
  "NoneType __format__ A d md __format__ object 12 13",
  "NoneType __ge__ A d wd __ge__ object 14 11",
  "NoneType __getattribute__ A d wd __getattribute__ object 15 7",
  "NoneType __getstate__ A d md __getstate__ object 16 3",
  "NoneType __gt__ A d wd __gt__ object 17 11",
  "NoneType __hash__ A d wd __hash__ object 18 3",
  "NoneType __init__ A d wd __init__ object 19 5",
  "NoneType __init_subclass__ A b bm __init_subclass__ NoneType.__init_subclass__ 20 - T:NoneType",
  "NoneType __instancecheck__ C b bm __instancecheck__ NoneType.__instancecheck__ 21 22 T:NoneType",
  "NoneType __itemsize__ C n 0",
  "NoneType __le__ A d wd __le__ object 23 11",
  "NoneType __lt__ A d wd __lt__ object 24 11",
  "NoneType __module__ C t 25",
  "NoneType __mro__ C u NoneType object",
  "NoneType __name__ C t 26",
  "NoneType __ne__ A d wd __ne__ object 27 11",
  "NoneType __new__ A b bm __new__ NoneType.__new__ 28 29 T:NoneType",
  "NoneType __or__ C b mw __or__ type.__or__ 30 11 T:NoneType",
  "NoneType __prepare__ C b bm __prepare__ type.__prepare__ 31 - T:type",
  "NoneType __qualname__ C t 26",
  "NoneType __reduce__ A d md __reduce__ object 16 3",
  "NoneType __reduce_ex__ A d md __reduce_ex__ object 16 32",
  "NoneType __repr__ A d wd __repr__ NoneType 33 3",
  "NoneType __ror__ C b mw __ror__ type.__ror__ 34 11 T:NoneType",
  "NoneType __setattr__ A d wd __setattr__ object 35 36",
  "NoneType __sizeof__ A d md __sizeof__ object 37 3",
  "NoneType __str__ A d wd __str__ object 38 3",
  "NoneType __subclasscheck__ C b bm __subclasscheck__ NoneType.__subclasscheck__ 39 40 T:NoneType",
  "NoneType __subclasses__ C b bm __subclasses__ NoneType.__subclasses__ 41 3 T:NoneType",
  "NoneType __subclasshook__ A b bm __subclasshook__ NoneType.__subclasshook__ 42 - T:NoneType",
  "NoneType __text_signature__ C z",
  "NoneType __weakrefoffset__ C n 0",
  "NoneType mro C b bm mro NoneType.mro 43 3 T:NoneType",
  "bool __abs__ A d wd __abs__ int 44 3",
  "bool __abstractmethods__ C m 0",
  "bool __add__ A d wd __add__ int 45 11",
  "bool __and__ A d wd __and__ bool 46 11",
  "bool __annotations__ C m 47",
  "bool __base__ C y int",
  "bool __bases__ C u int",
  "bool __basicsize__ C n 32",
  "bool __bool__ A d wd __bool__ int 2 3",
  "bool __call__ C b mw __call__ type.__call__ 4 5 T:bool",
  "bool __ceil__ A d md __ceil__ int 48 -",
  "bool __class__ A y type",
  "bool __delattr__ A d wd __delattr__ object 6 7",
  "bool __dict__ C o mappingproxy 49",
  "bool __dictoffset__ C n 0",
  "bool __dir__ A d md __dir__ object 9 3",
  "bool __divmod__ A d wd __divmod__ int 50 11",
  "bool __doc__ A t 51",
  "bool __eq__ A d wd __eq__ int 10 11",
  "bool __flags__ C n 21500160",
  "bool __float__ A d wd __float__ int 52 3",
  "bool __floor__ A d md __floor__ int 53 -",
  "bool __floordiv__ A d wd __floordiv__ int 54 11",
  "bool __format__ A d md __format__ int - 13",
  "bool __ge__ A d wd __ge__ int 14 11",
  "bool __getattribute__ A d wd __getattribute__ int 15 7",
  "bool __getnewargs__ A d md __getnewargs__ int - 3",
  "bool __getstate__ A d md __getstate__ object 16 3",
  "bool __gt__ A d wd __gt__ int 17 11",
  "bool __hash__ A d wd __hash__ int 18 3",
  "bool __index__ A d wd __index__ int 55 3",
  "bool __init__ A d wd __init__ object 19 5",
  "bool __init_subclass__ A b bm __init_subclass__ bool.__init_subclass__ 20 - T:bool",
  "bool __instancecheck__ C b bm __instancecheck__ bool.__instancecheck__ 21 22 T:bool",
  "bool __int__ A d wd __int__ int 56 3",
  "bool __invert__ A d wd __invert__ int 57 3",
  "bool __itemsize__ C n 4",
  "bool __le__ A d wd __le__ int 23 11",
  "bool __lshift__ A d wd __lshift__ int 58 11",
  "bool __lt__ A d wd __lt__ int 24 11",
  "bool __mod__ A d wd __mod__ int 59 11",
  "bool __module__ C t 25",
  "bool __mro__ C u bool int object",
  "bool __mul__ A d wd __mul__ int 60 11",
  "bool __name__ C t 61",
  "bool __ne__ A d wd __ne__ int 27 11",
  "bool __neg__ A d wd __neg__ int 62 3",
  "bool __new__ A b bm __new__ bool.__new__ 28 29 T:bool",
  "bool __or__ A d wd __or__ bool 30 11",
  "bool __pos__ A d wd __pos__ int 63 3",
  "bool __pow__ A d wd __pow__ int 64 65",
  "bool __prepare__ C b bm __prepare__ type.__prepare__ 31 - T:type",
  "bool __qualname__ C t 61",
  "bool __radd__ A d wd __radd__ int 66 11",
  "bool __rand__ A d wd __rand__ bool 67 11",
  "bool __rdivmod__ A d wd __rdivmod__ int 68 11",
  "bool __reduce__ A d md __reduce__ object 16 3",
  "bool __reduce_ex__ A d md __reduce_ex__ object 16 32",
  "bool __repr__ A d wd __repr__ bool 33 3",
  "bool __rfloordiv__ A d wd __rfloordiv__ int 69 11",
  "bool __rlshift__ A d wd __rlshift__ int 70 11",
  "bool __rmod__ A d wd __rmod__ int 71 11",
  "bool __rmul__ A d wd __rmul__ int 72 11",
  "bool __ror__ A d wd __ror__ bool 34 11",
  "bool __round__ A d md __round__ int 73 74",
  "bool __rpow__ A d wd __rpow__ int 75 65",
  "bool __rrshift__ A d wd __rrshift__ int 76 11",
  "bool __rshift__ A d wd __rshift__ int 77 11",
  "bool __rsub__ A d wd __rsub__ int 78 11",
  "bool __rtruediv__ A d wd __rtruediv__ int 79 11",
  "bool __rxor__ A d wd __rxor__ bool 80 11",
  "bool __setattr__ A d wd __setattr__ object 35 36",
  "bool __sizeof__ A d md __sizeof__ int 81 3",
  "bool __str__ A d wd __str__ object 38 3",
  "bool __sub__ A d wd __sub__ int 82 11",
  "bool __subclasscheck__ C b bm __subclasscheck__ bool.__subclasscheck__ 39 40 T:bool",
  "bool __subclasses__ C b bm __subclasses__ bool.__subclasses__ 41 3 T:bool",
  "bool __subclasshook__ A b bm __subclasshook__ bool.__subclasshook__ 42 - T:bool",
  "bool __text_signature__ C z",
  "bool __truediv__ A d wd __truediv__ int 83 11",
  "bool __trunc__ A d md __trunc__ int 84 -",
  "bool __weakrefoffset__ C n 0",
  "bool __xor__ A d wd __xor__ bool 85 11",
  "bool as_integer_ratio A d md as_integer_ratio int 86 3",
  "bool bit_count A d md bit_count int 87 3",
  "bool bit_length A d md bit_length int 88 3",
  "bool conjugate A d md conjugate int 89 -",
  "bool denominator A d gd denominator int 90 -",
  "bool from_bytes A b bm from_bytes bool.from_bytes 91 92 T:bool",
  "bool imag A d gd imag int 93 -",
  "bool mro C b bm mro bool.mro 43 3 T:bool",
  "bool numerator A d gd numerator int 94 -",
  "bool real A d gd real int 95 -",
  "bool to_bytes A d md to_bytes int 96 97",
  "int __abs__ A d wd __abs__ int 44 3",
  "int __abstractmethods__ C m 0",
  "int __add__ A d wd __add__ int 45 11",
  "int __and__ A d wd __and__ int 46 11",
  "int __annotations__ C m 98",
  "int __base__ C y object",
  "int __bases__ C u object",
  "int __basicsize__ C n 24",
  "int __bool__ A d wd __bool__ int 2 3",
  "int __call__ C b mw __call__ type.__call__ 4 5 T:int",
  "int __ceil__ A d md __ceil__ int 48 -",
  "int __class__ A y type",
  "int __delattr__ A d wd __delattr__ object 6 7",
  "int __dict__ C o mappingproxy 99",
  "int __dictoffset__ C n 0",
  "int __dir__ A d md __dir__ object 9 3",
  "int __divmod__ A d wd __divmod__ int 50 11",
  "int __doc__ A t 100",
  "int __eq__ A d wd __eq__ int 10 11",
  "int __flags__ C n 21501184",
  "int __float__ A d wd __float__ int 52 3",
  "int __floor__ A d md __floor__ int 53 -",
  "int __floordiv__ A d wd __floordiv__ int 54 11",
  "int __format__ A d md __format__ int - 13",
  "int __ge__ A d wd __ge__ int 14 11",
  "int __getattribute__ A d wd __getattribute__ int 15 7",
  "int __getnewargs__ A d md __getnewargs__ int - 3",
  "int __getstate__ A d md __getstate__ object 16 3",
  "int __gt__ A d wd __gt__ int 17 11",
  "int __hash__ A d wd __hash__ int 18 3",
  "int __index__ A d wd __index__ int 55 3",
  "int __init__ A d wd __init__ object 19 5",
  "int __init_subclass__ A b bm __init_subclass__ int.__init_subclass__ 20 - T:int",
  "int __instancecheck__ C b bm __instancecheck__ int.__instancecheck__ 21 22 T:int",
  "int __int__ A d wd __int__ int 56 3",
  "int __invert__ A d wd __invert__ int 57 3",
  "int __itemsize__ C n 4",
  "int __le__ A d wd __le__ int 23 11",
  "int __lshift__ A d wd __lshift__ int 58 11",
  "int __lt__ A d wd __lt__ int 24 11",
  "int __mod__ A d wd __mod__ int 59 11",
  "int __module__ C t 25",
  "int __mro__ C u int object",
  "int __mul__ A d wd __mul__ int 60 11",
  "int __name__ C t 101",
  "int __ne__ A d wd __ne__ int 27 11",
  "int __neg__ A d wd __neg__ int 62 3",
  "int __new__ A b bm __new__ int.__new__ 28 29 T:int",
  "int __or__ A d wd __or__ int 30 11",
  "int __pos__ A d wd __pos__ int 63 3",
  "int __pow__ A d wd __pow__ int 64 65",
  "int __prepare__ C b bm __prepare__ type.__prepare__ 31 - T:type",
  "int __qualname__ C t 101",
  "int __radd__ A d wd __radd__ int 66 11",
  "int __rand__ A d wd __rand__ int 67 11",
  "int __rdivmod__ A d wd __rdivmod__ int 68 11",
  "int __reduce__ A d md __reduce__ object 16 3",
  "int __reduce_ex__ A d md __reduce_ex__ object 16 32",
  "int __repr__ A d wd __repr__ int 33 3",
  "int __rfloordiv__ A d wd __rfloordiv__ int 69 11",
  "int __rlshift__ A d wd __rlshift__ int 70 11",
  "int __rmod__ A d wd __rmod__ int 71 11",
  "int __rmul__ A d wd __rmul__ int 72 11",
  "int __ror__ A d wd __ror__ int 34 11",
  "int __round__ A d md __round__ int 73 74",
  "int __rpow__ A d wd __rpow__ int 75 65",
  "int __rrshift__ A d wd __rrshift__ int 76 11",
  "int __rshift__ A d wd __rshift__ int 77 11",
  "int __rsub__ A d wd __rsub__ int 78 11",
  "int __rtruediv__ A d wd __rtruediv__ int 79 11",
  "int __rxor__ A d wd __rxor__ int 80 11",
  "int __setattr__ A d wd __setattr__ object 35 36",
  "int __sizeof__ A d md __sizeof__ int 81 3",
  "int __str__ A d wd __str__ object 38 3",
  "int __sub__ A d wd __sub__ int 82 11",
  "int __subclasscheck__ C b bm __subclasscheck__ int.__subclasscheck__ 39 40 T:int",
  "int __subclasses__ C b bm __subclasses__ int.__subclasses__ 41 3 T:int",
  "int __subclasshook__ A b bm __subclasshook__ int.__subclasshook__ 42 - T:int",
  "int __text_signature__ C z",
  "int __truediv__ A d wd __truediv__ int 83 11",
  "int __trunc__ A d md __trunc__ int 84 -",
  "int __weakrefoffset__ C n 0",
  "int __xor__ A d wd __xor__ int 85 11",
  "int as_integer_ratio A d md as_integer_ratio int 86 3",
  "int bit_count A d md bit_count int 87 3",
  "int bit_length A d md bit_length int 88 3",
  "int conjugate A d md conjugate int 89 -",
  "int denominator A d gd denominator int 90 -",
  "int from_bytes A b bm from_bytes int.from_bytes 91 92 T:int",
  "int imag A d gd imag int 93 -",
  "int mro C b bm mro int.mro 43 3 T:int",
  "int numerator A d gd numerator int 94 -",
  "int real A d gd real int 95 -",
  "int to_bytes A d md to_bytes int 96 97",
  "float __abs__ A d wd __abs__ float 44 3",
  "float __abstractmethods__ C m 0",
  "float __add__ A d wd __add__ float 45 11",
  "float __annotations__ C m 102",
  "float __base__ C y object",
  "float __bases__ C u object",
  "float __basicsize__ C n 24",
  "float __bool__ A d wd __bool__ float 2 3",
  "float __call__ C b mw __call__ type.__call__ 4 5 T:float",
  "float __ceil__ A d md __ceil__ float 103 3",
  "float __class__ A y type",
  "float __delattr__ A d wd __delattr__ object 6 7",
  "float __dict__ C o mappingproxy 104",
  "float __dictoffset__ C n 0",
  "float __dir__ A d md __dir__ object 9 3",
  "float __divmod__ A d wd __divmod__ float 50 11",
  "float __doc__ A t 105",
  "float __eq__ A d wd __eq__ float 10 11",
  "float __flags__ C n 4723968",
  "float __float__ A d wd __float__ float 52 3",
  "float __floor__ A d md __floor__ float 106 3",
  "float __floordiv__ A d wd __floordiv__ float 54 11",
  "float __format__ A d md __format__ float 107 13",
  "float __ge__ A d wd __ge__ float 14 11",
  "float __getattribute__ A d wd __getattribute__ float 15 7",
  "float __getformat__ A b bm __getformat__ float.__getformat__ 108 109 T:float",
  "float __getnewargs__ A d md __getnewargs__ float - 3",
  "float __getstate__ A d md __getstate__ object 16 3",
  "float __gt__ A d wd __gt__ float 17 11",
  "float __hash__ A d wd __hash__ float 18 3",
  "float __init__ A d wd __init__ object 19 5",
  "float __init_subclass__ A b bm __init_subclass__ float.__init_subclass__ 20 - T:float",
  "float __instancecheck__ C b bm __instancecheck__ float.__instancecheck__ 21 22 T:float",
  "float __int__ A d wd __int__ float 56 3",
  "float __itemsize__ C n 0",
  "float __le__ A d wd __le__ float 23 11",
  "float __lt__ A d wd __lt__ float 24 11",
  "float __mod__ A d wd __mod__ float 59 11",
  "float __module__ C t 25",
  "float __mro__ C u float object",
  "float __mul__ A d wd __mul__ float 60 11",
  "float __name__ C t 110",
  "float __ne__ A d wd __ne__ float 27 11",
  "float __neg__ A d wd __neg__ float 62 3",
  "float __new__ A b bm __new__ float.__new__ 28 29 T:float",
  "float __or__ C b mw __or__ type.__or__ 30 11 T:float",
  "float __pos__ A d wd __pos__ float 63 3",
  "float __pow__ A d wd __pow__ float 64 65",
  "float __prepare__ C b bm __prepare__ type.__prepare__ 31 - T:type",
  "float __qualname__ C t 110",
  "float __radd__ A d wd __radd__ float 66 11",
  "float __rdivmod__ A d wd __rdivmod__ float 68 11",
  "float __reduce__ A d md __reduce__ object 16 3",
  "float __reduce_ex__ A d md __reduce_ex__ object 16 32",
  "float __repr__ A d wd __repr__ float 33 3",
  "float __rfloordiv__ A d wd __rfloordiv__ float 69 11",
  "float __rmod__ A d wd __rmod__ float 71 11",
  "float __rmul__ A d wd __rmul__ float 72 11",
  "float __ror__ C b mw __ror__ type.__ror__ 34 11 T:float",
  "float __round__ A d md __round__ float 111 112",
  "float __rpow__ A d wd __rpow__ float 75 65",
  "float __rsub__ A d wd __rsub__ float 78 11",
  "float __rtruediv__ A d wd __rtruediv__ float 79 11",
  "float __setattr__ A d wd __setattr__ object 35 36",
  "float __sizeof__ A d md __sizeof__ object 37 3",
  "float __str__ A d wd __str__ object 38 3",
  "float __sub__ A d wd __sub__ float 82 11",
  "float __subclasscheck__ C b bm __subclasscheck__ float.__subclasscheck__ 39 40 T:float",
  "float __subclasses__ C b bm __subclasses__ float.__subclasses__ 41 3 T:float",
  "float __subclasshook__ A b bm __subclasshook__ float.__subclasshook__ 42 - T:float",
  "float __text_signature__ C t 113",
  "float __truediv__ A d wd __truediv__ float 83 11",
  "float __trunc__ A d md __trunc__ float 114 3",
  "float __weakrefoffset__ C n 0",
  "float as_integer_ratio A d md as_integer_ratio float 115 3",
  "float conjugate A d md conjugate float 116 3",
  "float fromhex A b bm fromhex float.fromhex 117 118 T:float",
  "float hex A d md hex float 119 3",
  "float imag A d gd imag float 93 -",
  "float is_integer A d md is_integer float 120 3",
  "float mro C b bm mro float.mro 43 3 T:float",
  "float real A d gd real float 95 -",
  "str __abstractmethods__ C m 0",
  "str __add__ A d wd __add__ str 45 11",
  "str __annotations__ C m 121",
  "str __base__ C y object",
  "str __bases__ C u object",
  "str __basicsize__ C n 80",
  "str __call__ C b mw __call__ type.__call__ 4 5 T:str",
  "str __class__ A y type",
  "str __contains__ A d wd __contains__ str 122 123",
  "str __delattr__ A d wd __delattr__ object 6 7",
  "str __dict__ C o mappingproxy 124",
  "str __dictoffset__ C n 0",
  "str __dir__ A d md __dir__ object 9 3",
  "str __doc__ A t 125",
  "str __eq__ A d wd __eq__ str 10 11",
  "str __flags__ C n 273159424",
  "str __format__ A d md __format__ str 126 13",
  "str __ge__ A d wd __ge__ str 14 11",
  "str __getattribute__ A d wd __getattribute__ str 15 7",
  "str __getitem__ A d wd __getitem__ str 127 123",
  "str __getnewargs__ A d md __getnewargs__ str - -",
  "str __getstate__ A d md __getstate__ object 16 3",
  "str __gt__ A d wd __gt__ str 17 11",
  "str __hash__ A d wd __hash__ str 18 3",
  "str __init__ A d wd __init__ object 19 5",
  "str __init_subclass__ A b bm __init_subclass__ str.__init_subclass__ 20 - T:str",
  "str __instancecheck__ C b bm __instancecheck__ str.__instancecheck__ 21 22 T:str",
  "str __itemsize__ C n 0",
  "str __iter__ A d wd __iter__ str 128 3",
  "str __le__ A d wd __le__ str 23 11",
  "str __len__ A d wd __len__ str 129 3",
  "str __lt__ A d wd __lt__ str 24 11",
  "str __mod__ A d wd __mod__ str 59 11",
  "str __module__ C t 25",
  "str __mro__ C u str object",
  "str __mul__ A d wd __mul__ str 60 11",
  "str __name__ C t 130",
  "str __ne__ A d wd __ne__ str 27 11",
  "str __new__ A b bm __new__ str.__new__ 28 29 T:str",
  "str __or__ C b mw __or__ type.__or__ 30 11 T:str",
  "str __prepare__ C b bm __prepare__ type.__prepare__ 31 - T:type",
  "str __qualname__ C t 130",
  "str __reduce__ A d md __reduce__ object 16 3",
  "str __reduce_ex__ A d md __reduce_ex__ object 16 32",
  "str __repr__ A d wd __repr__ str 33 3",
  "str __rmod__ A d wd __rmod__ str 71 11",
  "str __rmul__ A d wd __rmul__ str 72 11",
  "str __ror__ C b mw __ror__ type.__ror__ 34 11 T:str",
  "str __setattr__ A d wd __setattr__ object 35 36",
  "str __sizeof__ A d md __sizeof__ str 131 3",
  "str __str__ A d wd __str__ str 38 3",
  "str __subclasscheck__ C b bm __subclasscheck__ str.__subclasscheck__ 39 40 T:str",
  "str __subclasses__ C b bm __subclasses__ str.__subclasses__ 41 3 T:str",
  "str __subclasshook__ A b bm __subclasshook__ str.__subclasshook__ 42 - T:str",
  "str __text_signature__ C z",
  "str __weakrefoffset__ C n 0",
  "str capitalize A d md capitalize str 132 3",
  "str casefold A d md casefold str 133 3",
  "str center A d md center str 134 135",
  "str count A d md count str 136 -",
  "str encode A d md encode str 137 138",
  "str endswith A d md endswith str 139 -",
  "str expandtabs A d md expandtabs str 140 141",
  "str find A d md find str 142 -",
  "str format A d md format str 143 -",
  "str format_map A d md format_map str 144 -",
  "str index A d md index str 145 -",
  "str isalnum A d md isalnum str 146 3",
  "str isalpha A d md isalpha str 147 3",
  "str isascii A d md isascii str 148 3",
  "str isdecimal A d md isdecimal str 149 3",
  "str isdigit A d md isdigit str 150 3",
  "str isidentifier A d md isidentifier str 151 3",
  "str islower A d md islower str 152 3",
  "str isnumeric A d md isnumeric str 153 3",
  "str isprintable A d md isprintable str 154 3",
  "str isspace A d md isspace str 155 3",
  "str istitle A d md istitle str 156 3",
  "str isupper A d md isupper str 157 3",
  "str join A d md join str 158 159",
  "str ljust A d md ljust str 160 135",
  "str lower A d md lower str 161 3",
  "str lstrip A d md lstrip str 162 163",
  "str maketrans A b bm maketrans str.maketrans 164 165 N",
  "str mro C b bm mro str.mro 43 3 T:str",
  "str partition A d md partition str 166 167",
  "str removeprefix A d md removeprefix str 168 169",
  "str removesuffix A d md removesuffix str 170 171",
  "str replace A d md replace str 172 173",
  "str rfind A d md rfind str 174 -",
  "str rindex A d md rindex str 175 -",
  "str rjust A d md rjust str 176 135",
  "str rpartition A d md rpartition str 177 167",
  "str rsplit A d md rsplit str 178 179",
  "str rstrip A d md rstrip str 180 163",
  "str split A d md split str 181 179",
  "str splitlines A d md splitlines str 182 183",
  "str startswith A d md startswith str 184 -",
  "str strip A d md strip str 185 163",
  "str swapcase A d md swapcase str 186 3",
  "str title A d md title str 187 3",
  "str translate A d md translate str 188 189",
  "str upper A d md upper str 190 3",
  "str zfill A d md zfill str 191 192",
  "list __abstractmethods__ C m 0",
  "list __add__ A d wd __add__ list 45 11",
  "list __annotations__ C m 193",
  "list __base__ C y object",
  "list __bases__ C u object",
  "list __basicsize__ C n 40",
  "list __call__ C b mw __call__ type.__call__ 4 5 T:list",
  "list __class__ A y type",
  "list __class_getitem__ A b bm __class_getitem__ list.__class_getitem__ 194 - T:list",
  "list __contains__ A d wd __contains__ list 122 123",
  "list __delattr__ A d wd __delattr__ object 6 7",
  "list __delitem__ A d wd __delitem__ list 195 123",
  "list __dict__ C o mappingproxy 196",
  "list __dictoffset__ C n 0",
  "list __dir__ A d md __dir__ object 9 3",
  "list __doc__ A t 197",
  "list __eq__ A d wd __eq__ list 10 11",
  "list __flags__ C n 38294816",
  "list __format__ A d md __format__ object 12 13",
  "list __ge__ A d wd __ge__ list 14 11",
  "list __getattribute__ A d wd __getattribute__ list 15 7",
  "list __getitem__ A d md __getitem__ list 198 -",
  "list __getstate__ A d md __getstate__ object 16 3",
  "list __gt__ A d wd __gt__ list 17 11",
  "list __hash__ A z",
  "list __iadd__ A d wd __iadd__ list 199 11",
  "list __imul__ A d wd __imul__ list 200 11",
  "list __init__ A d wd __init__ list 19 5",
  "list __init_subclass__ A b bm __init_subclass__ list.__init_subclass__ 20 - T:list",
  "list __instancecheck__ C b bm __instancecheck__ list.__instancecheck__ 21 22 T:list",
  "list __itemsize__ C n 0",
  "list __iter__ A d wd __iter__ list 128 3",
  "list __le__ A d wd __le__ list 23 11",
  "list __len__ A d wd __len__ list 129 3",
  "list __lt__ A d wd __lt__ list 24 11",
  "list __module__ C t 25",
  "list __mro__ C u list object",
  "list __mul__ A d wd __mul__ list 60 11",
  "list __name__ C t 201",
  "list __ne__ A d wd __ne__ list 27 11",
  "list __new__ A b bm __new__ list.__new__ 28 29 T:list",
  "list __or__ C b mw __or__ type.__or__ 30 11 T:list",
  "list __prepare__ C b bm __prepare__ type.__prepare__ 31 - T:type",
  "list __qualname__ C t 201",
  "list __reduce__ A d md __reduce__ object 16 3",
  "list __reduce_ex__ A d md __reduce_ex__ object 16 32",
  "list __repr__ A d wd __repr__ list 33 3",
  "list __reversed__ A d md __reversed__ list 202 3",
  "list __rmul__ A d wd __rmul__ list 72 11",
  "list __ror__ C b mw __ror__ type.__ror__ 34 11 T:list",
  "list __setattr__ A d wd __setattr__ object 35 36",
  "list __setitem__ A d wd __setitem__ list 203 204",
  "list __sizeof__ A d md __sizeof__ list 205 3",
  "list __str__ A d wd __str__ object 38 3",
  "list __subclasscheck__ C b bm __subclasscheck__ list.__subclasscheck__ 39 40 T:list",
  "list __subclasses__ C b bm __subclasses__ list.__subclasses__ 41 3 T:list",
  "list __subclasshook__ A b bm __subclasshook__ list.__subclasshook__ 42 - T:list",
  "list __text_signature__ C t 206",
  "list __weakrefoffset__ C n 0",
  "list append A d md append list 207 208",
  "list clear A d md clear list 209 3",
  "list copy A d md copy list 210 3",
  "list count A d md count list 211 11",
  "list extend A d md extend list 212 159",
  "list index A d md index list 213 214",
  "list insert A d md insert list 215 216",
  "list mro C b bm mro list.mro 43 3 T:list",
  "list pop A d md pop list 217 218",
  "list remove A d md remove list 219 11",
  "list reverse A d md reverse list 220 3",
  "list sort A d md sort list 221 222",
  "dict __abstractmethods__ C m 0",
  "dict __annotations__ C m 223",
  "dict __base__ C y object",
  "dict __bases__ C u object",
  "dict __basicsize__ C n 48",
  "dict __call__ C b mw __call__ type.__call__ 4 5 T:dict",
  "dict __class__ A y type",
  "dict __class_getitem__ A b bm __class_getitem__ dict.__class_getitem__ 194 - T:dict",
  "dict __contains__ A d md __contains__ dict 224 123",
  "dict __delattr__ A d wd __delattr__ object 6 7",
  "dict __delitem__ A d wd __delitem__ dict 195 123",
  "dict __dict__ C o mappingproxy 225",
  "dict __dictoffset__ C n 0",
  "dict __dir__ A d md __dir__ object 9 3",
  "dict __doc__ A t 226",
  "dict __eq__ A d wd __eq__ dict 10 11",
  "dict __flags__ C n 541611328",
  "dict __format__ A d md __format__ object 12 13",
  "dict __ge__ A d wd __ge__ dict 14 11",
  "dict __getattribute__ A d wd __getattribute__ dict 15 7",
  "dict __getitem__ A d md __getitem__ dict 198 -",
  "dict __getstate__ A d md __getstate__ object 16 3",
  "dict __gt__ A d wd __gt__ dict 17 11",
  "dict __hash__ A z",
  "dict __init__ A d wd __init__ dict 19 5",
  "dict __init_subclass__ A b bm __init_subclass__ dict.__init_subclass__ 20 - T:dict",
  "dict __instancecheck__ C b bm __instancecheck__ dict.__instancecheck__ 21 22 T:dict",
  "dict __ior__ A d wd __ior__ dict 227 11",
  "dict __itemsize__ C n 0",
  "dict __iter__ A d wd __iter__ dict 128 3",
  "dict __le__ A d wd __le__ dict 23 11",
  "dict __len__ A d wd __len__ dict 129 3",
  "dict __lt__ A d wd __lt__ dict 24 11",
  "dict __module__ C t 25",
  "dict __mro__ C u dict object",
  "dict __name__ C t 228",
  "dict __ne__ A d wd __ne__ dict 27 11",
  "dict __new__ A b bm __new__ dict.__new__ 28 29 T:dict",
  "dict __or__ A d wd __or__ dict 30 11",
  "dict __prepare__ C b bm __prepare__ type.__prepare__ 31 - T:type",
  "dict __qualname__ C t 228",
  "dict __reduce__ A d md __reduce__ object 16 3",
  "dict __reduce_ex__ A d md __reduce_ex__ object 16 32",
  "dict __repr__ A d wd __repr__ dict 33 3",
  "dict __reversed__ A d md __reversed__ dict 229 3",
  "dict __ror__ A d wd __ror__ dict 34 11",
  "dict __setattr__ A d wd __setattr__ object 35 36",
  "dict __setitem__ A d wd __setitem__ dict 203 204",
  "dict __sizeof__ A d md __sizeof__ dict 230 -",
  "dict __str__ A d wd __str__ object 38 3",
  "dict __subclasscheck__ C b bm __subclasscheck__ dict.__subclasscheck__ 39 40 T:dict",
  "dict __subclasses__ C b bm __subclasses__ dict.__subclasses__ 41 3 T:dict",
  "dict __subclasshook__ A b bm __subclasshook__ dict.__subclasshook__ 42 - T:dict",
  "dict __text_signature__ C z",
  "dict __weakrefoffset__ C n 0",
  "dict clear A d md clear dict 231 -",
  "dict copy A d md copy dict 232 -",
  "dict fromkeys A b bm fromkeys dict.fromkeys 233 234 T:dict",
  "dict get A d md get dict 235 236",
  "dict items A d md items dict 237 -",
  "dict keys A d md keys dict 238 -",
  "dict mro C b bm mro dict.mro 43 3 T:dict",
  "dict pop A d md pop dict 239 240",
  "dict popitem A d md popitem dict 241 3",
  "dict setdefault A d md setdefault dict 242 236",
  "dict update A d md update dict 243 -",
  "dict values A d md values dict 244 -",
  "tuple __abstractmethods__ C m 0",
  "tuple __add__ A d wd __add__ tuple 45 11",
  "tuple __annotations__ C m 245",
  "tuple __base__ C y object",
  "tuple __bases__ C u object",
  "tuple __basicsize__ C n 24",
  "tuple __call__ C b mw __call__ type.__call__ 4 5 T:tuple",
  "tuple __class__ A y type",
  "tuple __class_getitem__ A b bm __class_getitem__ tuple.__class_getitem__ 194 - T:tuple",
  "tuple __contains__ A d wd __contains__ tuple 122 123",
  "tuple __delattr__ A d wd __delattr__ object 6 7",
  "tuple __dict__ C o mappingproxy 246",
  "tuple __dictoffset__ C n 0",
  "tuple __dir__ A d md __dir__ object 9 3",
  "tuple __doc__ A t 247",
  "tuple __eq__ A d wd __eq__ tuple 10 11",
  "tuple __flags__ C n 71849248",
  "tuple __format__ A d md __format__ object 12 13",
  "tuple __ge__ A d wd __ge__ tuple 14 11",
  "tuple __getattribute__ A d wd __getattribute__ tuple 15 7",
  "tuple __getitem__ A d wd __getitem__ tuple 127 123",
  "tuple __getnewargs__ A d md __getnewargs__ tuple - 3",
  "tuple __getstate__ A d md __getstate__ object 16 3",
  "tuple __gt__ A d wd __gt__ tuple 17 11",
  "tuple __hash__ A d wd __hash__ tuple 18 3",
  "tuple __init__ A d wd __init__ object 19 5",
  "tuple __init_subclass__ A b bm __init_subclass__ tuple.__init_subclass__ 20 - T:tuple",
  "tuple __instancecheck__ C b bm __instancecheck__ tuple.__instancecheck__ 21 22 T:tuple",
  "tuple __itemsize__ C n 8",
  "tuple __iter__ A d wd __iter__ tuple 128 3",
  "tuple __le__ A d wd __le__ tuple 23 11",
  "tuple __len__ A d wd __len__ tuple 129 3",
  "tuple __lt__ A d wd __lt__ tuple 24 11",
  "tuple __module__ C t 25",
  "tuple __mro__ C u tuple object",
  "tuple __mul__ A d wd __mul__ tuple 60 11",
  "tuple __name__ C t 248",
  "tuple __ne__ A d wd __ne__ tuple 27 11",
  "tuple __new__ A b bm __new__ tuple.__new__ 28 29 T:tuple",
  "tuple __or__ C b mw __or__ type.__or__ 30 11 T:tuple",
  "tuple __prepare__ C b bm __prepare__ type.__prepare__ 31 - T:type",
  "tuple __qualname__ C t 248",
  "tuple __reduce__ A d md __reduce__ object 16 3",
  "tuple __reduce_ex__ A d md __reduce_ex__ object 16 32",
  "tuple __repr__ A d wd __repr__ tuple 33 3",
  "tuple __rmul__ A d wd __rmul__ tuple 72 11",
  "tuple __ror__ C b mw __ror__ type.__ror__ 34 11 T:tuple",
  "tuple __setattr__ A d wd __setattr__ object 35 36",
  "tuple __sizeof__ A d md __sizeof__ object 37 3",
  "tuple __str__ A d wd __str__ object 38 3",
  "tuple __subclasscheck__ C b bm __subclasscheck__ tuple.__subclasscheck__ 39 40 T:tuple",
  "tuple __subclasses__ C b bm __subclasses__ tuple.__subclasses__ 41 3 T:tuple",
  "tuple __subclasshook__ A b bm __subclasshook__ tuple.__subclasshook__ 42 - T:tuple",
  "tuple __text_signature__ C t 206",
  "tuple __weakrefoffset__ C n 0",
  "tuple count A d md count tuple 211 11",
  "tuple index A d md index tuple 213 214",
  "tuple mro C b bm mro tuple.mro 43 3 T:tuple",
  "type __abstractmethods__ A m 0",
  "type __annotations__ A m 249",
  "type __base__ A y object",
  "type __bases__ A u object",
  "type __basicsize__ A n 904",
  "type __call__ A d wd __call__ type 4 5",
  "type __class__ A y type",
  "type __delattr__ A d wd __delattr__ type 6 7",
  "type __dict__ A o mappingproxy 250",
  "type __dictoffset__ A n 264",
  "type __dir__ A d md __dir__ type 251 3",
  "type __doc__ A t 252",
  "type __eq__ A d wd __eq__ object 10 11",
  "type __flags__ A n 2148031744",
  "type __format__ A d md __format__ object 12 13",
  "type __ge__ A d wd __ge__ object 14 11",
  "type __getattribute__ A d wd __getattribute__ type 15 7",
  "type __getstate__ A d md __getstate__ object 16 3",
  "type __gt__ A d wd __gt__ object 17 11",
  "type __hash__ A d wd __hash__ object 18 3",
  "type __init__ A d wd __init__ type 19 5",
  "type __init_subclass__ A b bm __init_subclass__ type.__init_subclass__ 20 - T:type",
  "type __instancecheck__ A d md __instancecheck__ type 21 22",
  "type __itemsize__ A n 40",
  "type __le__ A d wd __le__ object 23 11",
  "type __lt__ A d wd __lt__ object 24 11",
  "type __module__ A t 25",
  "type __mro__ A u type object",
  "type __name__ A t 253",
  "type __ne__ A d wd __ne__ object 27 11",
  "type __new__ A b bm __new__ type.__new__ 28 29 T:type",
  "type __or__ A d wd __or__ type 30 11",
  "type __prepare__ A b bm __prepare__ type.__prepare__ 31 - T:type",
  "type __qualname__ A t 253",
  "type __reduce__ A d md __reduce__ object 16 3",
  "type __reduce_ex__ A d md __reduce_ex__ object 16 32",
  "type __repr__ A d wd __repr__ type 33 3",
  "type __ror__ A d wd __ror__ type 34 11",
  "type __setattr__ A d wd __setattr__ type 35 36",
  "type __sizeof__ A d md __sizeof__ type 254 3",
  "type __str__ A d wd __str__ object 38 3",
  "type __subclasscheck__ A d md __subclasscheck__ type 39 40",
  "type __subclasses__ A d md __subclasses__ type 41 3",
  "type __subclasshook__ A b bm __subclasshook__ type.__subclasshook__ 42 - T:type",
  "type __text_signature__ A z",
  "type __weakrefoffset__ A n 368",
  "type mro A d md mro type 43 3",
  "object __abstractmethods__ C m 0",
  "object __annotations__ C m 255",
  "object __base__ C z",
  "object __bases__ C u",
  "object __basicsize__ C n 16",
  "object __call__ C b mw __call__ type.__call__ 4 5 T:object",
  "object __class__ A y type",
  "object __delattr__ A d wd __delattr__ object 6 7",
  "object __dict__ C o mappingproxy 256",
  "object __dictoffset__ C n 0",
  "object __dir__ A d md __dir__ object 9 3",
  "object __doc__ A t 257",
  "object __eq__ A d wd __eq__ object 10 11",
  "object __flags__ C n 529664",
  "object __format__ A d md __format__ object 12 13",
  "object __ge__ A d wd __ge__ object 14 11",
  "object __getattribute__ A d wd __getattribute__ object 15 7",
  "object __getstate__ A d md __getstate__ object 16 3",
  "object __gt__ A d wd __gt__ object 17 11",
  "object __hash__ A d wd __hash__ object 18 3",
  "object __init__ A d wd __init__ object 19 5",
  "object __init_subclass__ A b bm __init_subclass__ object.__init_subclass__ 20 - T:object",
  "object __instancecheck__ C b bm __instancecheck__ object.__instancecheck__ 21 22 T:object",
  "object __itemsize__ C n 0",
  "object __le__ A d wd __le__ object 23 11",
  "object __lt__ A d wd __lt__ object 24 11",
  "object __module__ C t 25",
  "object __mro__ C u object",
  "object __name__ C t 258",
  "object __ne__ A d wd __ne__ object 27 11",
  "object __new__ A b bm __new__ object.__new__ 28 29 T:object",
  "object __or__ C b mw __or__ type.__or__ 30 11 T:object",
  "object __prepare__ C b bm __prepare__ type.__prepare__ 31 - T:type",
  "object __qualname__ C t 258",
  "object __reduce__ A d md __reduce__ object 16 3",
  "object __reduce_ex__ A d md __reduce_ex__ object 16 32",
  "object __repr__ A d wd __repr__ object 33 3",
  "object __ror__ C b mw __ror__ type.__ror__ 34 11 T:object",
  "object __setattr__ A d wd __setattr__ object 35 36",
  "object __sizeof__ A d md __sizeof__ object 37 3",
  "object __str__ A d wd __str__ object 38 3",
  "object __subclasscheck__ C b bm __subclasscheck__ object.__subclasscheck__ 39 40 T:object",
  "object __subclasses__ C b bm __subclasses__ object.__subclasses__ 41 3 T:object",
  "object __subclasshook__ A b bm __subclasshook__ object.__subclasshook__ 42 - T:object",
  "object __text_signature__ C t 259",
  "object __weakrefoffset__ C n 0",
  "object mro C b bm mro object.mro 43 3 T:object",
  "builtin_function_or_method __abstractmethods__ C m 0",
  "builtin_function_or_method __annotations__ C m 260",
  "builtin_function_or_method __base__ C y object",
  "builtin_function_or_method __bases__ C u object",
  "builtin_function_or_method __basicsize__ C n 56",
  "builtin_function_or_method __call__ A d wd __call__ builtin_function_or_method 4 5",
  "builtin_function_or_method __class__ A y type",
  "builtin_function_or_method __delattr__ A d wd __delattr__ object 6 7",
  "builtin_function_or_method __dict__ C o mappingproxy 261",
  "builtin_function_or_method __dictoffset__ C n 0",
  "builtin_function_or_method __dir__ A d md __dir__ object 9 3",
  "builtin_function_or_method __doc__ A d gd __doc__ builtin_function_or_method - -",
  "builtin_function_or_method __eq__ A d wd __eq__ builtin_function_or_method 10 11",
  "builtin_function_or_method __flags__ C n 547200",
  "builtin_function_or_method __format__ A d md __format__ object 12 13",
  "builtin_function_or_method __ge__ A d wd __ge__ builtin_function_or_method 14 11",
  "builtin_function_or_method __getattribute__ A d wd __getattribute__ builtin_function_or_method 15 7",
  "builtin_function_or_method __getstate__ A d md __getstate__ object 16 3",
  "builtin_function_or_method __gt__ A d wd __gt__ builtin_function_or_method 17 11",
  "builtin_function_or_method __hash__ A d wd __hash__ builtin_function_or_method 18 3",
  "builtin_function_or_method __init__ A d wd __init__ object 19 5",
  "builtin_function_or_method __init_subclass__ A b bm __init_subclass__ builtin_function_or_method.__init_subclass__ 20 - T:builtin_function_or_method",
  "builtin_function_or_method __instancecheck__ C b bm __instancecheck__ builtin_function_or_method.__instancecheck__ 21 22 T:builtin_function_or_method",
  "builtin_function_or_method __itemsize__ C n 0",
  "builtin_function_or_method __le__ A d wd __le__ builtin_function_or_method 23 11",
  "builtin_function_or_method __lt__ A d wd __lt__ builtin_function_or_method 24 11",
  "builtin_function_or_method __module__ A t 25",
  "builtin_function_or_method __mro__ C u builtin_function_or_method object",
  "builtin_function_or_method __name__ A t 262",
  "builtin_function_or_method __ne__ A d wd __ne__ builtin_function_or_method 27 11",
  "builtin_function_or_method __new__ A b bm __new__ object.__new__ 28 29 T:object",
  "builtin_function_or_method __or__ C b mw __or__ type.__or__ 30 11 T:builtin_function_or_method",
  "builtin_function_or_method __prepare__ C b bm __prepare__ type.__prepare__ 31 - T:type",
  "builtin_function_or_method __qualname__ A t 262",
  "builtin_function_or_method __reduce__ A d md __reduce__ builtin_function_or_method - -",
  "builtin_function_or_method __reduce_ex__ A d md __reduce_ex__ object 16 32",
  "builtin_function_or_method __repr__ A d wd __repr__ builtin_function_or_method 33 3",
  "builtin_function_or_method __ror__ C b mw __ror__ type.__ror__ 34 11 T:builtin_function_or_method",
  "builtin_function_or_method __self__ A d gd __self__ builtin_function_or_method - -",
  "builtin_function_or_method __setattr__ A d wd __setattr__ object 35 36",
  "builtin_function_or_method __sizeof__ A d md __sizeof__ object 37 3",
  "builtin_function_or_method __str__ A d wd __str__ object 38 3",
  "builtin_function_or_method __subclasscheck__ C b bm __subclasscheck__ builtin_function_or_method.__subclasscheck__ 39 40 T:builtin_function_or_method",
  "builtin_function_or_method __subclasses__ C b bm __subclasses__ builtin_function_or_method.__subclasses__ 41 3 T:builtin_function_or_method",
  "builtin_function_or_method __subclasshook__ A b bm __subclasshook__ builtin_function_or_method.__subclasshook__ 42 - T:builtin_function_or_method",
  "builtin_function_or_method __text_signature__ A z",
  "builtin_function_or_method __weakrefoffset__ C n 40",
  "builtin_function_or_method mro C b bm mro builtin_function_or_method.mro 43 3 T:builtin_function_or_method",
  "method-wrapper __abstractmethods__ C m 0",
  "method-wrapper __annotations__ C m 263",
  "method-wrapper __base__ C y object",
  "method-wrapper __bases__ C u object",
  "method-wrapper __basicsize__ C n 32",
  "method-wrapper __call__ A d wd __call__ method-wrapper 4 5",
  "method-wrapper __class__ A y type",
  "method-wrapper __delattr__ A d wd __delattr__ object 6 7",
  "method-wrapper __dict__ C o mappingproxy 264",
  "method-wrapper __dictoffset__ C n 0",
  "method-wrapper __dir__ A d md __dir__ object 9 3",
  "method-wrapper __doc__ A d gd __doc__ method-wrapper - -",
  "method-wrapper __eq__ A d wd __eq__ method-wrapper 10 11",
  "method-wrapper __flags__ C n 545152",
  "method-wrapper __format__ A d md __format__ object 12 13",
  "method-wrapper __ge__ A d wd __ge__ method-wrapper 14 11",
  "method-wrapper __getattribute__ A d wd __getattribute__ method-wrapper 15 7",
  "method-wrapper __getstate__ A d md __getstate__ object 16 3",
  "method-wrapper __gt__ A d wd __gt__ method-wrapper 17 11",
  "method-wrapper __hash__ A d wd __hash__ method-wrapper 18 3",
  "method-wrapper __init__ A d wd __init__ object 19 5",
  "method-wrapper __init_subclass__ A b bm __init_subclass__ method-wrapper.__init_subclass__ 20 - T:method-wrapper",
  "method-wrapper __instancecheck__ C b bm __instancecheck__ method-wrapper.__instancecheck__ 21 22 T:method-wrapper",
  "method-wrapper __itemsize__ C n 0",
  "method-wrapper __le__ A d wd __le__ method-wrapper 23 11",
  "method-wrapper __lt__ A d wd __lt__ method-wrapper 24 11",
  "method-wrapper __module__ C t 25",
  "method-wrapper __mro__ C u method-wrapper object",
  "method-wrapper __name__ A t 265",
  "method-wrapper __ne__ A d wd __ne__ method-wrapper 27 11",
  "method-wrapper __new__ A b bm __new__ object.__new__ 28 29 T:object",
  "method-wrapper __objclass__ A d gd __objclass__ method-wrapper - -",
  "method-wrapper __or__ C b mw __or__ type.__or__ 30 11 T:method-wrapper",
  "method-wrapper __prepare__ C b bm __prepare__ type.__prepare__ 31 - T:type",
  "method-wrapper __qualname__ A t 265",
  "method-wrapper __reduce__ A d md __reduce__ method-wrapper - -",
  "method-wrapper __reduce_ex__ A d md __reduce_ex__ object 16 32",
  "method-wrapper __repr__ A d wd __repr__ method-wrapper 33 3",
  "method-wrapper __ror__ C b mw __ror__ type.__ror__ 34 11 T:method-wrapper",
  "method-wrapper __self__ A d xd __self__ method-wrapper - -",
  "method-wrapper __setattr__ A d wd __setattr__ object 35 36",
  "method-wrapper __sizeof__ A d md __sizeof__ object 37 3",
  "method-wrapper __str__ A d wd __str__ object 38 3",
  "method-wrapper __subclasscheck__ C b bm __subclasscheck__ method-wrapper.__subclasscheck__ 39 40 T:method-wrapper",
  "method-wrapper __subclasses__ C b bm __subclasses__ method-wrapper.__subclasses__ 41 3 T:method-wrapper",
  "method-wrapper __subclasshook__ A b bm __subclasshook__ method-wrapper.__subclasshook__ 42 - T:method-wrapper",
  "method-wrapper __text_signature__ A z",
  "method-wrapper __weakrefoffset__ C n 0",
  "method-wrapper mro C b bm mro method-wrapper.mro 43 3 T:method-wrapper",
  "method_descriptor __abstractmethods__ C m 0",
  "method_descriptor __annotations__ C m 266",
  "method_descriptor __base__ C y object",
  "method_descriptor __bases__ C u object",
  "method_descriptor __basicsize__ C n 56",
  "method_descriptor __call__ A d wd __call__ method_descriptor 4 5",
  "method_descriptor __class__ A y type",
  "method_descriptor __delattr__ A d wd __delattr__ object 6 7",
  "method_descriptor __dict__ C o mappingproxy 267",
  "method_descriptor __dictoffset__ C n 0",
  "method_descriptor __dir__ A d md __dir__ object 9 3",
  "method_descriptor __doc__ A d gd __doc__ method_descriptor - -",
  "method_descriptor __eq__ A d wd __eq__ object 10 11",
  "method_descriptor __flags__ C n 678272",
  "method_descriptor __format__ A d md __format__ object 12 13",
  "method_descriptor __ge__ A d wd __ge__ object 14 11",
  "method_descriptor __get__ A d wd __get__ method_descriptor 268 269",
  "method_descriptor __getattribute__ A d wd __getattribute__ method_descriptor 15 7",
  "method_descriptor __getstate__ A d md __getstate__ object 16 3",
  "method_descriptor __gt__ A d wd __gt__ object 17 11",
  "method_descriptor __hash__ A d wd __hash__ object 18 3",
  "method_descriptor __init__ A d wd __init__ object 19 5",
  "method_descriptor __init_subclass__ A b bm __init_subclass__ method_descriptor.__init_subclass__ 20 - T:method_descriptor",
  "method_descriptor __instancecheck__ C b bm __instancecheck__ method_descriptor.__instancecheck__ 21 22 T:method_descriptor",
  "method_descriptor __itemsize__ C n 0",
  "method_descriptor __le__ A d wd __le__ object 23 11",
  "method_descriptor __lt__ A d wd __lt__ object 24 11",
  "method_descriptor __module__ C t 25",
  "method_descriptor __mro__ C u method_descriptor object",
  "method_descriptor __name__ A t 270",
  "method_descriptor __ne__ A d wd __ne__ object 27 11",
  "method_descriptor __new__ A b bm __new__ object.__new__ 28 29 T:object",
  "method_descriptor __objclass__ A d xd __objclass__ method_descriptor - -",
  "method_descriptor __or__ C b mw __or__ type.__or__ 30 11 T:method_descriptor",
  "method_descriptor __prepare__ C b bm __prepare__ type.__prepare__ 31 - T:type",
  "method_descriptor __qualname__ A t 270",
  "method_descriptor __reduce__ A d md __reduce__ method_descriptor - -",
  "method_descriptor __reduce_ex__ A d md __reduce_ex__ object 16 32",
  "method_descriptor __repr__ A d wd __repr__ method_descriptor 33 3",
  "method_descriptor __ror__ C b mw __ror__ type.__ror__ 34 11 T:method_descriptor",
  "method_descriptor __setattr__ A d wd __setattr__ object 35 36",
  "method_descriptor __sizeof__ A d md __sizeof__ object 37 3",
  "method_descriptor __str__ A d wd __str__ object 38 3",
  "method_descriptor __subclasscheck__ C b bm __subclasscheck__ method_descriptor.__subclasscheck__ 39 40 T:method_descriptor",
  "method_descriptor __subclasses__ C b bm __subclasses__ method_descriptor.__subclasses__ 41 3 T:method_descriptor",
  "method_descriptor __subclasshook__ A b bm __subclasshook__ method_descriptor.__subclasshook__ 42 - T:method_descriptor",
  "method_descriptor __text_signature__ A z",
  "method_descriptor __weakrefoffset__ C n 0",
  "method_descriptor mro C b bm mro method_descriptor.mro 43 3 T:method_descriptor",
  "wrapper_descriptor __abstractmethods__ C m 0",
  "wrapper_descriptor __annotations__ C m 271",
  "wrapper_descriptor __base__ C y object",
  "wrapper_descriptor __bases__ C u object",
  "wrapper_descriptor __basicsize__ C n 56",
  "wrapper_descriptor __call__ A d wd __call__ wrapper_descriptor 4 5",
  "wrapper_descriptor __class__ A y type",
  "wrapper_descriptor __delattr__ A d wd __delattr__ object 6 7",
  "wrapper_descriptor __dict__ C o mappingproxy 272",
  "wrapper_descriptor __dictoffset__ C n 0",
  "wrapper_descriptor __dir__ A d md __dir__ object 9 3",
  "wrapper_descriptor __doc__ A d gd __doc__ wrapper_descriptor - -",
  "wrapper_descriptor __eq__ A d wd __eq__ object 10 11",
  "wrapper_descriptor __flags__ C n 676224",
  "wrapper_descriptor __format__ A d md __format__ object 12 13",
  "wrapper_descriptor __ge__ A d wd __ge__ object 14 11",
  "wrapper_descriptor __get__ A d wd __get__ wrapper_descriptor 268 269",
  "wrapper_descriptor __getattribute__ A d wd __getattribute__ wrapper_descriptor 15 7",
  "wrapper_descriptor __getstate__ A d md __getstate__ object 16 3",
  "wrapper_descriptor __gt__ A d wd __gt__ object 17 11",
  "wrapper_descriptor __hash__ A d wd __hash__ object 18 3",
  "wrapper_descriptor __init__ A d wd __init__ object 19 5",
  "wrapper_descriptor __init_subclass__ A b bm __init_subclass__ wrapper_descriptor.__init_subclass__ 20 - T:wrapper_descriptor",
  "wrapper_descriptor __instancecheck__ C b bm __instancecheck__ wrapper_descriptor.__instancecheck__ 21 22 T:wrapper_descriptor",
  "wrapper_descriptor __itemsize__ C n 0",
  "wrapper_descriptor __le__ A d wd __le__ object 23 11",
  "wrapper_descriptor __lt__ A d wd __lt__ object 24 11",
  "wrapper_descriptor __module__ C t 25",
  "wrapper_descriptor __mro__ C u wrapper_descriptor object",
  "wrapper_descriptor __name__ A t 273",
  "wrapper_descriptor __ne__ A d wd __ne__ object 27 11",
  "wrapper_descriptor __new__ A b bm __new__ object.__new__ 28 29 T:object",
  "wrapper_descriptor __objclass__ A d xd __objclass__ wrapper_descriptor - -",
  "wrapper_descriptor __or__ C b mw __or__ type.__or__ 30 11 T:wrapper_descriptor",
  "wrapper_descriptor __prepare__ C b bm __prepare__ type.__prepare__ 31 - T:type",
  "wrapper_descriptor __qualname__ A t 273",
  "wrapper_descriptor __reduce__ A d md __reduce__ wrapper_descriptor - -",
  "wrapper_descriptor __reduce_ex__ A d md __reduce_ex__ object 16 32",
  "wrapper_descriptor __repr__ A d wd __repr__ wrapper_descriptor 33 3",
  "wrapper_descriptor __ror__ C b mw __ror__ type.__ror__ 34 11 T:wrapper_descriptor",
  "wrapper_descriptor __setattr__ A d wd __setattr__ object 35 36",
  "wrapper_descriptor __sizeof__ A d md __sizeof__ object 37 3",
  "wrapper_descriptor __str__ A d wd __str__ object 38 3",
  "wrapper_descriptor __subclasscheck__ C b bm __subclasscheck__ wrapper_descriptor.__subclasscheck__ 39 40 T:wrapper_descriptor",
  "wrapper_descriptor __subclasses__ C b bm __subclasses__ wrapper_descriptor.__subclasses__ 41 3 T:wrapper_descriptor",
  "wrapper_descriptor __subclasshook__ A b bm __subclasshook__ wrapper_descriptor.__subclasshook__ 42 - T:wrapper_descriptor",
  "wrapper_descriptor __text_signature__ A z",
  "wrapper_descriptor __weakrefoffset__ C n 0",
  "wrapper_descriptor mro C b bm mro wrapper_descriptor.mro 43 3 T:wrapper_descriptor",
  "classmethod_descriptor __abstractmethods__ C m 0",
  "classmethod_descriptor __annotations__ C m 274",
  "classmethod_descriptor __base__ C y object",
  "classmethod_descriptor __bases__ C u object",
  "classmethod_descriptor __basicsize__ C n 56",
  "classmethod_descriptor __call__ A d wd __call__ classmethod_descriptor 4 5",
  "classmethod_descriptor __class__ A y type",
  "classmethod_descriptor __delattr__ A d wd __delattr__ object 6 7",
  "classmethod_descriptor __dict__ C o mappingproxy 275",
  "classmethod_descriptor __dictoffset__ C n 0",
  "classmethod_descriptor __dir__ A d md __dir__ object 9 3",
  "classmethod_descriptor __doc__ A d gd __doc__ classmethod_descriptor - -",
  "classmethod_descriptor __eq__ A d wd __eq__ object 10 11",
  "classmethod_descriptor __flags__ C n 545152",
  "classmethod_descriptor __format__ A d md __format__ object 12 13",
  "classmethod_descriptor __ge__ A d wd __ge__ object 14 11",
  "classmethod_descriptor __get__ A d wd __get__ classmethod_descriptor 268 269",
  "classmethod_descriptor __getattribute__ A d wd __getattribute__ classmethod_descriptor 15 7",
  "classmethod_descriptor __getstate__ A d md __getstate__ object 16 3",
  "classmethod_descriptor __gt__ A d wd __gt__ object 17 11",
  "classmethod_descriptor __hash__ A d wd __hash__ object 18 3",
  "classmethod_descriptor __init__ A d wd __init__ object 19 5",
  "classmethod_descriptor __init_subclass__ A b bm __init_subclass__ classmethod_descriptor.__init_subclass__ 20 - T:classmethod_descriptor",
  "classmethod_descriptor __instancecheck__ C b bm __instancecheck__ classmethod_descriptor.__instancecheck__ 21 22 T:classmethod_descriptor",
  "classmethod_descriptor __itemsize__ C n 0",
  "classmethod_descriptor __le__ A d wd __le__ object 23 11",
  "classmethod_descriptor __lt__ A d wd __lt__ object 24 11",
  "classmethod_descriptor __module__ C t 25",
  "classmethod_descriptor __mro__ C u classmethod_descriptor object",
  "classmethod_descriptor __name__ A t 276",
  "classmethod_descriptor __ne__ A d wd __ne__ object 27 11",
  "classmethod_descriptor __new__ A b bm __new__ object.__new__ 28 29 T:object",
  "classmethod_descriptor __objclass__ A d xd __objclass__ classmethod_descriptor - -",
  "classmethod_descriptor __or__ C b mw __or__ type.__or__ 30 11 T:classmethod_descriptor",
  "classmethod_descriptor __prepare__ C b bm __prepare__ type.__prepare__ 31 - T:type",
  "classmethod_descriptor __qualname__ A t 276",
  "classmethod_descriptor __reduce__ A d md __reduce__ object 16 3",
  "classmethod_descriptor __reduce_ex__ A d md __reduce_ex__ object 16 32",
  "classmethod_descriptor __repr__ A d wd __repr__ classmethod_descriptor 33 3",
  "classmethod_descriptor __ror__ C b mw __ror__ type.__ror__ 34 11 T:classmethod_descriptor",
  "classmethod_descriptor __setattr__ A d wd __setattr__ object 35 36",
  "classmethod_descriptor __sizeof__ A d md __sizeof__ object 37 3",
  "classmethod_descriptor __str__ A d wd __str__ object 38 3",
  "classmethod_descriptor __subclasscheck__ C b bm __subclasscheck__ classmethod_descriptor.__subclasscheck__ 39 40 T:classmethod_descriptor",
  "classmethod_descriptor __subclasses__ C b bm __subclasses__ classmethod_descriptor.__subclasses__ 41 3 T:classmethod_descriptor",
  "classmethod_descriptor __subclasshook__ A b bm __subclasshook__ classmethod_descriptor.__subclasshook__ 42 - T:classmethod_descriptor",
  "classmethod_descriptor __text_signature__ A z",
  "classmethod_descriptor __weakrefoffset__ C n 0",
  "classmethod_descriptor mro C b bm mro classmethod_descriptor.mro 43 3 T:classmethod_descriptor",
  "getset_descriptor __abstractmethods__ C m 0",
  "getset_descriptor __annotations__ C m 277",
  "getset_descriptor __base__ C y object",
  "getset_descriptor __bases__ C u object",
  "getset_descriptor __basicsize__ C n 48",
  "getset_descriptor __call__ C b mw __call__ type.__call__ 4 5 T:getset_descriptor",
  "getset_descriptor __class__ A y type",
  "getset_descriptor __delattr__ A d wd __delattr__ object 6 7",
  "getset_descriptor __delete__ A d wd __delete__ getset_descriptor 278 22",
  "getset_descriptor __dict__ C o mappingproxy 279",
  "getset_descriptor __dictoffset__ C n 0",
  "getset_descriptor __dir__ A d md __dir__ object 9 3",
  "getset_descriptor __doc__ A d gd __doc__ getset_descriptor - -",
  "getset_descriptor __eq__ A d wd __eq__ object 10 11",
  "getset_descriptor __flags__ C n 545152",
  "getset_descriptor __format__ A d md __format__ object 12 13",
  "getset_descriptor __ge__ A d wd __ge__ object 14 11",
  "getset_descriptor __get__ A d wd __get__ getset_descriptor 268 269",
  "getset_descriptor __getattribute__ A d wd __getattribute__ getset_descriptor 15 7",
  "getset_descriptor __getstate__ A d md __getstate__ object 16 3",
  "getset_descriptor __gt__ A d wd __gt__ object 17 11",
  "getset_descriptor __hash__ A d wd __hash__ object 18 3",
  "getset_descriptor __init__ A d wd __init__ object 19 5",
  "getset_descriptor __init_subclass__ A b bm __init_subclass__ getset_descriptor.__init_subclass__ 20 - T:getset_descriptor",
  "getset_descriptor __instancecheck__ C b bm __instancecheck__ getset_descriptor.__instancecheck__ 21 22 T:getset_descriptor",
  "getset_descriptor __itemsize__ C n 0",
  "getset_descriptor __le__ A d wd __le__ object 23 11",
  "getset_descriptor __lt__ A d wd __lt__ object 24 11",
  "getset_descriptor __module__ C t 25",
  "getset_descriptor __mro__ C u getset_descriptor object",
  "getset_descriptor __name__ A t 280",
  "getset_descriptor __ne__ A d wd __ne__ object 27 11",
  "getset_descriptor __new__ A b bm __new__ object.__new__ 28 29 T:object",
  "getset_descriptor __objclass__ A d xd __objclass__ getset_descriptor - -",
  "getset_descriptor __or__ C b mw __or__ type.__or__ 30 11 T:getset_descriptor",
  "getset_descriptor __prepare__ C b bm __prepare__ type.__prepare__ 31 - T:type",
  "getset_descriptor __qualname__ A t 280",
  "getset_descriptor __reduce__ A d md __reduce__ object 16 3",
  "getset_descriptor __reduce_ex__ A d md __reduce_ex__ object 16 32",
  "getset_descriptor __repr__ A d wd __repr__ getset_descriptor 33 3",
  "getset_descriptor __ror__ C b mw __ror__ type.__ror__ 34 11 T:getset_descriptor",
  "getset_descriptor __set__ A d wd __set__ getset_descriptor 281 282",
  "getset_descriptor __setattr__ A d wd __setattr__ object 35 36",
  "getset_descriptor __sizeof__ A d md __sizeof__ object 37 3",
  "getset_descriptor __str__ A d wd __str__ object 38 3",
  "getset_descriptor __subclasscheck__ C b bm __subclasscheck__ getset_descriptor.__subclasscheck__ 39 40 T:getset_descriptor",
  "getset_descriptor __subclasses__ C b bm __subclasses__ getset_descriptor.__subclasses__ 41 3 T:getset_descriptor",
  "getset_descriptor __subclasshook__ A b bm __subclasshook__ getset_descriptor.__subclasshook__ 42 - T:getset_descriptor",
  "getset_descriptor __text_signature__ C z",
  "getset_descriptor __weakrefoffset__ C n 0",
  "getset_descriptor mro C b bm mro getset_descriptor.mro 43 3 T:getset_descriptor",
  "member_descriptor __abstractmethods__ C m 0",
  "member_descriptor __annotations__ C m 283",
  "member_descriptor __base__ C y object",
  "member_descriptor __bases__ C u object",
  "member_descriptor __basicsize__ C n 48",
  "member_descriptor __call__ C b mw __call__ type.__call__ 4 5 T:member_descriptor",
  "member_descriptor __class__ A y type",
  "member_descriptor __delattr__ A d wd __delattr__ object 6 7",
  "member_descriptor __delete__ A d wd __delete__ member_descriptor 278 22",
  "member_descriptor __dict__ C o mappingproxy 284",
  "member_descriptor __dictoffset__ C n 0",
  "member_descriptor __dir__ A d md __dir__ object 9 3",
  "member_descriptor __doc__ A d gd __doc__ member_descriptor - -",
  "member_descriptor __eq__ A d wd __eq__ object 10 11",
  "member_descriptor __flags__ C n 545152",
  "member_descriptor __format__ A d md __format__ object 12 13",
  "member_descriptor __ge__ A d wd __ge__ object 14 11",
  "member_descriptor __get__ A d wd __get__ member_descriptor 268 269",
  "member_descriptor __getattribute__ A d wd __getattribute__ member_descriptor 15 7",
  "member_descriptor __getstate__ A d md __getstate__ object 16 3",
  "member_descriptor __gt__ A d wd __gt__ object 17 11",
  "member_descriptor __hash__ A d wd __hash__ object 18 3",
  "member_descriptor __init__ A d wd __init__ object 19 5",
  "member_descriptor __init_subclass__ A b bm __init_subclass__ member_descriptor.__init_subclass__ 20 - T:member_descriptor",
  "member_descriptor __instancecheck__ C b bm __instancecheck__ member_descriptor.__instancecheck__ 21 22 T:member_descriptor",
  "member_descriptor __itemsize__ C n 0",
  "member_descriptor __le__ A d wd __le__ object 23 11",
  "member_descriptor __lt__ A d wd __lt__ object 24 11",
  "member_descriptor __module__ C t 25",
  "member_descriptor __mro__ C u member_descriptor object",
  "member_descriptor __name__ A t 285",
  "member_descriptor __ne__ A d wd __ne__ object 27 11",
  "member_descriptor __new__ A b bm __new__ object.__new__ 28 29 T:object",
  "member_descriptor __objclass__ A d xd __objclass__ member_descriptor - -",
  "member_descriptor __or__ C b mw __or__ type.__or__ 30 11 T:member_descriptor",
  "member_descriptor __prepare__ C b bm __prepare__ type.__prepare__ 31 - T:type",
  "member_descriptor __qualname__ A t 285",
  "member_descriptor __reduce__ A d md __reduce__ member_descriptor - -",
  "member_descriptor __reduce_ex__ A d md __reduce_ex__ object 16 32",
  "member_descriptor __repr__ A d wd __repr__ member_descriptor 33 3",
  "member_descriptor __ror__ C b mw __ror__ type.__ror__ 34 11 T:member_descriptor",
  "member_descriptor __set__ A d wd __set__ member_descriptor 281 282",
  "member_descriptor __setattr__ A d wd __setattr__ object 35 36",
  "member_descriptor __sizeof__ A d md __sizeof__ object 37 3",
  "member_descriptor __str__ A d wd __str__ object 38 3",
  "member_descriptor __subclasscheck__ C b bm __subclasscheck__ member_descriptor.__subclasscheck__ 39 40 T:member_descriptor",
  "member_descriptor __subclasses__ C b bm __subclasses__ member_descriptor.__subclasses__ 41 3 T:member_descriptor",
  "member_descriptor __subclasshook__ A b bm __subclasshook__ member_descriptor.__subclasshook__ 42 - T:member_descriptor",
  "member_descriptor __text_signature__ C z",
  "member_descriptor __weakrefoffset__ C n 0",
  "member_descriptor mro C b bm mro member_descriptor.mro 43 3 T:member_descriptor",
  "mappingproxy __abstractmethods__ C m 0",
  "mappingproxy __annotations__ C m 286",
  "mappingproxy __base__ C y object",
  "mappingproxy __bases__ C u object",
  "mappingproxy __basicsize__ C n 24",
  "mappingproxy __call__ C b mw __call__ type.__call__ 4 5 T:mappingproxy",
  "mappingproxy __class__ A y type",
  "mappingproxy __class_getitem__ A b bm __class_getitem__ mappingproxy.__class_getitem__ 194 - T:mappingproxy",
  "mappingproxy __contains__ A d wd __contains__ mappingproxy 122 123",
  "mappingproxy __delattr__ A d wd __delattr__ object 6 7",
  "mappingproxy __dict__ C o mappingproxy 287",
  "mappingproxy __dictoffset__ C n 0",
  "mappingproxy __dir__ A d md __dir__ object 9 3",
  "mappingproxy __doc__ A z",
  "mappingproxy __eq__ A d wd __eq__ mappingproxy 10 11",
  "mappingproxy __flags__ C n 545088",
  "mappingproxy __format__ A d md __format__ object 12 13",
  "mappingproxy __ge__ A d wd __ge__ mappingproxy 14 11",
  "mappingproxy __getattribute__ A d wd __getattribute__ mappingproxy 15 7",
  "mappingproxy __getitem__ A d wd __getitem__ mappingproxy 127 123",
  "mappingproxy __getstate__ A d md __getstate__ object 16 3",
  "mappingproxy __gt__ A d wd __gt__ mappingproxy 17 11",
  "mappingproxy __hash__ A z",
  "mappingproxy __init__ A d wd __init__ object 19 5",
  "mappingproxy __init_subclass__ A b bm __init_subclass__ mappingproxy.__init_subclass__ 20 - T:mappingproxy",
  "mappingproxy __instancecheck__ C b bm __instancecheck__ mappingproxy.__instancecheck__ 21 22 T:mappingproxy",
  "mappingproxy __ior__ A d wd __ior__ mappingproxy 227 11",
  "mappingproxy __itemsize__ C n 0",
  "mappingproxy __iter__ A d wd __iter__ mappingproxy 128 3",
  "mappingproxy __le__ A d wd __le__ mappingproxy 23 11",
  "mappingproxy __len__ A d wd __len__ mappingproxy 129 3",
  "mappingproxy __lt__ A d wd __lt__ mappingproxy 24 11",
  "mappingproxy __module__ C t 25",
  "mappingproxy __mro__ C u mappingproxy object",
  "mappingproxy __name__ C t 288",
  "mappingproxy __ne__ A d wd __ne__ mappingproxy 27 11",
  "mappingproxy __new__ A b bm __new__ mappingproxy.__new__ 28 29 T:mappingproxy",
  "mappingproxy __or__ A d wd __or__ mappingproxy 30 11",
  "mappingproxy __prepare__ C b bm __prepare__ type.__prepare__ 31 - T:type",
  "mappingproxy __qualname__ C t 288",
  "mappingproxy __reduce__ A d md __reduce__ object 16 3",
  "mappingproxy __reduce_ex__ A d md __reduce_ex__ object 16 32",
  "mappingproxy __repr__ A d wd __repr__ mappingproxy 33 3",
  "mappingproxy __reversed__ A d md __reversed__ mappingproxy 289 -",
  "mappingproxy __ror__ A d wd __ror__ mappingproxy 34 11",
  "mappingproxy __setattr__ A d wd __setattr__ object 35 36",
  "mappingproxy __sizeof__ A d md __sizeof__ object 37 3",
  "mappingproxy __str__ A d wd __str__ mappingproxy 38 3",
  "mappingproxy __subclasscheck__ C b bm __subclasscheck__ mappingproxy.__subclasscheck__ 39 40 T:mappingproxy",
  "mappingproxy __subclasses__ C b bm __subclasses__ mappingproxy.__subclasses__ 41 3 T:mappingproxy",
  "mappingproxy __subclasshook__ A b bm __subclasshook__ mappingproxy.__subclasshook__ 42 - T:mappingproxy",
  "mappingproxy __text_signature__ C z",
  "mappingproxy __weakrefoffset__ C n 0",
  "mappingproxy copy A d md copy mappingproxy 232 -",
  "mappingproxy get A d md get mappingproxy 290 -",
  "mappingproxy items A d md items mappingproxy 237 -",
  "mappingproxy keys A d md keys mappingproxy 238 -",
  "mappingproxy mro C b bm mro mappingproxy.mro 43 3 T:mappingproxy",
  "mappingproxy values A d md values mappingproxy 244 -"
]

/-- The fields of the row of attribute `attr` of type `kind`, after the type and the name:
the scope, the tag and what follows it. -/
def attributeRow? (kind attr : String) : Option (List String) :=
  attributeRows.findSome? fun row =>
    match row.splitOn " " with
    | k :: a :: fields => if k == kind && a == attr then some fields else none
    | _ => none

/-- The names of the attributes of type `kind`. -/
def attributeNames (kind : String) : List String :=
  attributeRows.filterMap fun row =>
    match row.splitOn " " with
    | k :: a :: _ => if k == kind then some a else none
    | _ => none

end ConnectedHome.Text
