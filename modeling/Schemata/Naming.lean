import Schemata.Inflection.Noun
import Schemata.Naming.Abbreviation

/-!
# Names of database objects

Every name that a specification gives to a database object is built here: from the names in the
specification, in snake case, and within the database's limit. All are marked with a digest when
they are too long, since each has to stay unique where it is declared.
-/

namespace Schemata.Naming

open Text Inflection

/-- The characters of a name in snake case. -/
def words (name : String) : List Char := snakeChars name.toList

/-- An identifier within the database's limit. -/
def bounded (ident : List Char) : String := String.ofList (abbreviateChars {} ident)

/-- The table of a model, or of an enumeration: `Person` is kept in `people`. -/
def tableName (name : String) : String := bounded (plural (words name))

/-- The column of a field. -/
def columnName (field : String) : String := bounded (words field)

/-- The column that refers to a field of another model: `contact_info_id`. -/
def referenceColumnName (model field : String) : String :=
  bounded (words model ++ '_' :: words field)

/-- The table that joins two models: `person_tags`. -/
def junctionTableName (source target : String) : String :=
  bounded (plural (words source ++ '_' :: words target))

/-- The view of an entity: its plural and a suffix. -/
def viewName (entity suffix : String) : String :=
  bounded (plural (words entity) ++ suffix.toList)

/-- A name made of a role, a table and columns of it. -/
def roleName (role table : String) (columns : List String) : String :=
  bounded (joinSegments ((role :: table :: columns).map String.toList))

/-- A foreign key: `fk_people_contact_id`. -/
def foreignKeyName (table : String) (columns : List String) : String := roleName "fk" table columns

/-- A unique constraint: `uk_people_email`. -/
def uniqueName (table : String) (columns : List String) : String := roleName "uk" table columns

/-- An index: `idx_people_contact_id`. -/
def indexName (table : String) (columns : List String) : String := roleName "idx" table columns

end Schemata.Naming
