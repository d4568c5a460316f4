/-
The scalar types of PostgreSQL's catalogue. The types whose values this library
writes and reads in a format of their own have constructors; the values of all
others travel as text.
-/
namespace SqlBind.Postgres

/-- A type as the catalogue lists it. -/
structure CatalogEntry where
  name : String
  /-- The number that stands for the type on the wire. -/
  oid : Nat
  /-- The number of its array type, if it has one. -/
  arrayOid : Option Nat
  deriving DecidableEq, Repr

/-- A scalar type. -/
inductive Scalar where
  | bool
  | int2
  | int4
  | int8
  | oid
  | float4
  | float8
  | numeric
  | bytea
  | text
  | varchar
  | bpchar
  | name
  | unknown
  | uuid
  | date
  | time
  | timetz
  | timestamp
  | timestamptz
  | json
  | jsonb
  | refcursor
  | other (entry : CatalogEntry)
  deriving DecidableEq, Repr

namespace Scalar

/-- The type's place in the catalogue. -/
def entry : Scalar → CatalogEntry
  | bool => ⟨"bool", 16, some 1000⟩
  | int2 => ⟨"int2", 21, some 1005⟩
  | int4 => ⟨"int4", 23, some 1007⟩
  | int8 => ⟨"int8", 20, some 1016⟩
  | oid => ⟨"oid", 26, some 1028⟩
  | float4 => ⟨"float4", 700, some 1021⟩
  | float8 => ⟨"float8", 701, some 1022⟩
  | numeric => ⟨"numeric", 1700, some 1231⟩
  | bytea => ⟨"bytea", 17, some 1001⟩
  | text => ⟨"text", 25, some 1009⟩
  | varchar => ⟨"varchar", 1043, some 1015⟩
  | bpchar => ⟨"bpchar", 1042, some 1014⟩
  | name => ⟨"name", 19, some 1003⟩
  | unknown => ⟨"unknown", 705, none⟩
  | uuid => ⟨"uuid", 2950, some 2951⟩
  | date => ⟨"date", 1082, some 1182⟩
  | time => ⟨"time", 1083, some 1183⟩
  | timetz => ⟨"timetz", 1266, some 1270⟩
  | timestamp => ⟨"timestamp", 1114, some 1115⟩
  | timestamptz => ⟨"timestamptz", 1184, some 1185⟩
  | json => ⟨"json", 114, some 199⟩
  | jsonb => ⟨"jsonb", 3802, some 3807⟩
  | refcursor => ⟨"refcursor", 1790, some 2201⟩
  | other entry => entry

/-- The types with a format of their own. -/
def formatted : List Scalar :=
  [bool, int2, int4, int8, oid, float4, float8, numeric, bytea, text, varchar, bpchar, name,
    unknown, uuid, date, time, timetz, timestamp, timestamptz, json, jsonb, refcursor]

/-- The catalogue's other types. -/
def others : List CatalogEntry :=
  [⟨"char", 18, some 1002⟩, ⟨"regproc", 24, some 1008⟩, ⟨"tid", 27, some 1010⟩,
    ⟨"xid", 28, some 1011⟩, ⟨"cid", 29, some 1012⟩, ⟨"pg_ddl_command", 32, none⟩,
    ⟨"xml", 142, some 143⟩, ⟨"pg_node_tree", 194, none⟩, ⟨"table_am_handler", 269, none⟩,
    ⟨"index_am_handler", 325, none⟩, ⟨"point", 600, some 1017⟩, ⟨"lseg", 601, some 1018⟩,
    ⟨"path", 602, some 1019⟩, ⟨"box", 603, some 1020⟩, ⟨"polygon", 604, some 1027⟩,
    ⟨"line", 628, some 629⟩, ⟨"cidr", 650, some 651⟩, ⟨"circle", 718, some 719⟩,
    ⟨"macaddr8", 774, some 775⟩, ⟨"money", 790, some 791⟩, ⟨"macaddr", 829, some 1040⟩,
    ⟨"inet", 869, some 1041⟩, ⟨"aclitem", 1033, some 1034⟩, ⟨"interval", 1186, some 1187⟩,
    ⟨"bit", 1560, some 1561⟩, ⟨"varbit", 1562, some 1563⟩, ⟨"regprocedure", 2202, some 2207⟩,
    ⟨"regoper", 2203, some 2208⟩, ⟨"regoperator", 2204, some 2209⟩,
    ⟨"regclass", 2205, some 2210⟩, ⟨"regtype", 2206, some 2211⟩, ⟨"record", 2249, none⟩,
    ⟨"_record", 2287, none⟩, ⟨"cstring", 2275, some 1263⟩, ⟨"any", 2276, none⟩,
    ⟨"anyarray", 2277, none⟩, ⟨"void", 2278, none⟩, ⟨"trigger", 2279, none⟩,
    ⟨"language_handler", 2280, none⟩, ⟨"internal", 2281, none⟩, ⟨"anyelement", 2283, none⟩,
    ⟨"anynonarray", 2776, none⟩, ⟨"txid_snapshot", 2970, some 2949⟩,
    ⟨"fdw_handler", 3115, none⟩, ⟨"pg_lsn", 3220, some 3221⟩, ⟨"tsm_handler", 3310, none⟩,
    ⟨"pg_ndistinct", 3361, none⟩, ⟨"pg_dependencies", 3402, none⟩, ⟨"anyenum", 3500, none⟩,
    ⟨"tsvector", 3614, some 3643⟩, ⟨"tsquery", 3615, some 3645⟩, ⟨"gtsvector", 3642, some 3644⟩,
    ⟨"regconfig", 3734, some 3735⟩, ⟨"regdictionary", 3769, some 3770⟩,
    ⟨"anyrange", 3831, none⟩, ⟨"event_trigger", 3838, none⟩, ⟨"int4range", 3904, some 3905⟩,
    ⟨"numrange", 3906, some 3907⟩, ⟨"tsrange", 3908, some 3909⟩, ⟨"tstzrange", 3910, some 3911⟩,
    ⟨"daterange", 3912, some 3913⟩, ⟨"int8range", 3926, some 3927⟩,
    ⟨"jsonpath", 4072, some 4073⟩, ⟨"regnamespace", 4089, some 4090⟩,
    ⟨"regrole", 4096, some 4097⟩, ⟨"regcollation", 4191, some 4192⟩,
    ⟨"int4multirange", 4451, some 6150⟩, ⟨"nummultirange", 4532, some 6151⟩,
    ⟨"tsmultirange", 4533, some 6152⟩, ⟨"tstzmultirange", 4534, some 6153⟩,
    ⟨"datemultirange", 4535, some 6155⟩, ⟨"int8multirange", 4536, some 6157⟩,
    ⟨"anymultirange", 4537, none⟩, ⟨"anycompatiblemultirange", 4538, none⟩,
    ⟨"pg_brin_bloom_summary", 4600, none⟩, ⟨"pg_brin_minmax_multi_summary", 4601, none⟩,
    ⟨"pg_mcv_list", 5017, none⟩, ⟨"pg_snapshot", 5038, some 5039⟩, ⟨"xid8", 5069, some 271⟩,
    ⟨"anycompatible", 5077, none⟩, ⟨"anycompatiblearray", 5078, none⟩,
    ⟨"anycompatiblenonarray", 5079, none⟩, ⟨"anycompatiblerange", 5080, none⟩]

/-- The scalar type of a name. -/
def ofName? (name : String) : Option Scalar :=
  (formatted.find? fun s => s.entry.name = name).or
    ((others.find? fun e => e.name = name).map other)

end Scalar
end SqlBind.Postgres
