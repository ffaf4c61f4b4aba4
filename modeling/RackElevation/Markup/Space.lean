/-!
# Standard namespaces

The namespaces that markup refers to by their full names.  All of them start alike and differ in the
path that follows.
-/

namespace RackElevation.Markup

/-- The standard namespace with a given path. -/
def standardSpace (path : String) : String :=
  "http://www.w3.org/" ++ path

/-- The namespace of the names that begin with `xml`. -/
def xmlSpace : String := standardSpace "XML/1998/namespace"

/-- The namespace of the attributes that bind namespaces. -/
def bindingSpace : String := standardSpace "2000/xmlns/"

/-- The namespace of link attributes. -/
def linkSpace : String := standardSpace "1999/xlink"

/-- The namespace of the elements of a drawing. -/
def svgSpace : String := standardSpace "2000/svg"

end RackElevation.Markup
