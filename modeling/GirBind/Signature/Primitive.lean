namespace GirBind

inductive Scalar
  | byte
  | short
  | int
  | long
  | float
  | double
deriving DecidableEq

namespace Scalar

def name : Scalar → String
  | byte => "byte"
  | short => "short"
  | int => "int"
  | long => "long"
  | float => "float"
  | double => "double"

def layout : Scalar → String
  | byte => "ValueLayout.JAVA_BYTE"
  | short => "ValueLayout.JAVA_SHORT"
  | int => "ValueLayout.JAVA_INT"
  | long => "ValueLayout.JAVA_LONG"
  | float => "ValueLayout.JAVA_FLOAT"
  | double => "ValueLayout.JAVA_DOUBLE"

end Scalar

inductive Primitive
  | boolean
  | byte
  | short
  | int
  | long
  | float
  | double
  | void
  | string
  | pointer
  | gtype
  | vaList
deriving DecidableEq

namespace Primitive

def name : Primitive → String
  | boolean => "boolean"
  | byte => "byte"
  | short => "short"
  | int => "int"
  | long => "long"
  | float => "float"
  | double => "double"
  | void => "void"
  | string => "string"
  | pointer => "pointer"
  | gtype => "g-type"
  | vaList => "va-list"

/-- The type with a native name. ASCII case does not matter. -/
def ofName? (name : String) : Option Primitive :=
  match name.toLower with
  | "gboolean" => some boolean
  | "gchar" | "guchar" | "gint8" | "guint8" => some byte
  | "gshort" | "gushort" | "gint16" | "guint16" => some short
  | "gint" | "guint" | "gint32" | "guint32" | "gunichar" | "gunichar2" => some int
  | "glong" | "gulong" | "gint64" | "guint64" | "gssize" | "gsize" | "goffset" | "gintptr"
  | "guintptr" => some long
  | "gdouble" | "long double" => some double
  | "gfloat" => some float
  | "none" => some void
  | "utf8" | "filename" => some string
  | "gpointer" | "gconstpointer" => some pointer
  | "gtype" => some gtype
  | "va_list" | "valist" => some vaList
  | _ => none

def javaType : Primitive → String
  | boolean => "boolean"
  | byte => "byte"
  | short => "short"
  | int => "int"
  | long => "long"
  | float => "float"
  | double => "double"
  | void => "void"
  | string => "java.lang.String"
  | pointer => "java.lang.foreign.MemorySegment"
  | gtype => "org.gnome.glib.Type"
  | vaList => "VaList"

/-- The number format of a value. A truth value is a C integer. -/
def scalar? : Primitive → Option Scalar
  | boolean | int => some .int
  | byte => some .byte
  | short => some .short
  | long | gtype => some .long
  | float => some .float
  | double => some .double
  | void | string | pointer | vaList => none

end Primitive
end GirBind
