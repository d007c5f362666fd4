/-
ImportCensus/Text/AccentTable.lean

The characters that are made of a character and a mark, and the classes of the marks (Unicode 17.0).
-/

namespace ImportCensus.Text

/-- The characters that are made of two others, each with these two behind it, with a blank between each
two. -/
def compositionLines : List String :=
  ["\u00C0A\u0300 \u00C1A\u0301 \u00C2A\u0302 \u00C3A\u0303 \u00C4A\u0308 \u00C5A\u030A",
   "\u00C7C\u0327 \u00C8E\u0300 \u00C9E\u0301 \u00CAE\u0302 \u00CBE\u0308 \u00CCI\u0300",
   "\u00CDI\u0301 \u00CEI\u0302 \u00CFI\u0308 \u00D1N\u0303 \u00D2O\u0300 \u00D3O\u0301",
   "\u00D4O\u0302 \u00D5O\u0303 \u00D6O\u0308 \u00D9U\u0300 \u00DAU\u0301 \u00DBU\u0302",
   "\u00DCU\u0308 \u00DDY\u0301 \u00E0a\u0300 \u00E1a\u0301 \u00E2a\u0302 \u00E3a\u0303",
   "\u00E4a\u0308 \u00E5a\u030A \u00E7c\u0327 \u00E8e\u0300 \u00E9e\u0301 \u00EAe\u0302",
   "\u00EBe\u0308 \u00ECi\u0300 \u00EDi\u0301 \u00EEi\u0302 \u00EFi\u0308 \u00F1n\u0303",
   "\u00F2o\u0300 \u00F3o\u0301 \u00F4o\u0302 \u00F5o\u0303 \u00F6o\u0308 \u00F9u\u0300",
   "\u00FAu\u0301 \u00FBu\u0302 \u00FCu\u0308 \u00FDy\u0301 \u00FFy\u0308 \u0100A\u0304",
   "\u0101a\u0304 \u0102A\u0306 \u0103a\u0306 \u0104A\u0328 \u0105a\u0328 \u0106C\u0301",
   "\u0107c\u0301 \u0108C\u0302 \u0109c\u0302 \u010AC\u0307 \u010Bc\u0307 \u010CC\u030C",
   "\u010Dc\u030C \u010ED\u030C \u010Fd\u030C \u0112E\u0304 \u0113e\u0304 \u0114E\u0306",
   "\u0115e\u0306 \u0116E\u0307 \u0117e\u0307 \u0118E\u0328 \u0119e\u0328 \u011AE\u030C",
   "\u011Be\u030C \u011CG\u0302 \u011Dg\u0302 \u011EG\u0306 \u011Fg\u0306 \u0120G\u0307",
   "\u0121g\u0307 \u0122G\u0327 \u0123g\u0327 \u0124H\u0302 \u0125h\u0302 \u0128I\u0303",
   "\u0129i\u0303 \u012AI\u0304 \u012Bi\u0304 \u012CI\u0306 \u012Di\u0306 \u012EI\u0328",
   "\u012Fi\u0328 \u0130I\u0307 \u0134J\u0302 \u0135j\u0302 \u0136K\u0327 \u0137k\u0327",
   "\u0139L\u0301 \u013Al\u0301 \u013BL\u0327 \u013Cl\u0327 \u013DL\u030C \u013El\u030C",
   "\u0143N\u0301 \u0144n\u0301 \u0145N\u0327 \u0146n\u0327 \u0147N\u030C \u0148n\u030C",
   "\u014CO\u0304 \u014Do\u0304 \u014EO\u0306 \u014Fo\u0306 \u0150O\u030B \u0151o\u030B",
   "\u0154R\u0301 \u0155r\u0301 \u0156R\u0327 \u0157r\u0327 \u0158R\u030C \u0159r\u030C",
   "\u015AS\u0301 \u015Bs\u0301 \u015CS\u0302 \u015Ds\u0302 \u015ES\u0327 \u015Fs\u0327",
   "\u0160S\u030C \u0161s\u030C \u0162T\u0327 \u0163t\u0327 \u0164T\u030C \u0165t\u030C",
   "\u0168U\u0303 \u0169u\u0303 \u016AU\u0304 \u016Bu\u0304 \u016CU\u0306 \u016Du\u0306",
   "\u016EU\u030A \u016Fu\u030A \u0170U\u030B \u0171u\u030B \u0172U\u0328 \u0173u\u0328",
   "\u0174W\u0302 \u0175w\u0302 \u0176Y\u0302 \u0177y\u0302 \u0178Y\u0308 \u0179Z\u0301",
   "\u017Az\u0301 \u017BZ\u0307 \u017Cz\u0307 \u017DZ\u030C \u017Ez\u030C \u01A0O\u031B",
   "\u01A1o\u031B \u01AFU\u031B \u01B0u\u031B \u01CDA\u030C \u01CEa\u030C \u01CFI\u030C",
   "\u01D0i\u030C \u01D1O\u030C \u01D2o\u030C \u01D3U\u030C \u01D4u\u030C \u01D5\u00DC\u0304",
   "\u01D6\u00FC\u0304 \u01D7\u00DC\u0301 \u01D8\u00FC\u0301 \u01D9\u00DC\u030C \u01DA\u00FC\u030C",
   "\u01DB\u00DC\u0300 \u01DC\u00FC\u0300 \u01DE\u00C4\u0304 \u01DF\u00E4\u0304 \u01E0\u0226\u0304",
   "\u01E1\u0227\u0304 \u01E2\u00C6\u0304 \u01E3\u00E6\u0304 \u01E6G\u030C \u01E7g\u030C",
   "\u01E8K\u030C \u01E9k\u030C \u01EAO\u0328 \u01EBo\u0328 \u01EC\u01EA\u0304 \u01ED\u01EB\u0304",
   "\u01EE\u01B7\u030C \u01EF\u0292\u030C \u01F0j\u030C \u01F4G\u0301 \u01F5g\u0301 \u01F8N\u0300",
   "\u01F9n\u0300 \u01FA\u00C5\u0301 \u01FB\u00E5\u0301 \u01FC\u00C6\u0301 \u01FD\u00E6\u0301",
   "\u01FE\u00D8\u0301 \u01FF\u00F8\u0301 \u0200A\u030F \u0201a\u030F \u0202A\u0311 \u0203a\u0311",
   "\u0204E\u030F \u0205e\u030F \u0206E\u0311 \u0207e\u0311 \u0208I\u030F \u0209i\u030F",
   "\u020AI\u0311 \u020Bi\u0311 \u020CO\u030F \u020Do\u030F \u020EO\u0311 \u020Fo\u0311",
   "\u0210R\u030F \u0211r\u030F \u0212R\u0311 \u0213r\u0311 \u0214U\u030F \u0215u\u030F",
   "\u0216U\u0311 \u0217u\u0311 \u0218S\u0326 \u0219s\u0326 \u021AT\u0326 \u021Bt\u0326",
   "\u021EH\u030C \u021Fh\u030C \u0226A\u0307 \u0227a\u0307 \u0228E\u0327 \u0229e\u0327",
   "\u022A\u00D6\u0304 \u022B\u00F6\u0304 \u022C\u00D5\u0304 \u022D\u00F5\u0304 \u022EO\u0307",
   "\u022Fo\u0307 \u0230\u022E\u0304 \u0231\u022F\u0304 \u0232Y\u0304 \u0233y\u0304",
   "\u0385\u00A8\u0301 \u0386\u0391\u0301 \u0388\u0395\u0301 \u0389\u0397\u0301 \u038A\u0399\u0301",
   "\u038C\u039F\u0301 \u038E\u03A5\u0301 \u038F\u03A9\u0301 \u0390\u03CA\u0301 \u03AA\u0399\u0308",
   "\u03AB\u03A5\u0308 \u03AC\u03B1\u0301 \u03AD\u03B5\u0301 \u03AE\u03B7\u0301 \u03AF\u03B9\u0301",
   "\u03B0\u03CB\u0301 \u03CA\u03B9\u0308 \u03CB\u03C5\u0308 \u03CC\u03BF\u0301 \u03CD\u03C5\u0301",
   "\u03CE\u03C9\u0301 \u03D3\u03D2\u0301 \u03D4\u03D2\u0308 \u0400\u0415\u0300 \u0401\u0415\u0308",
   "\u0403\u0413\u0301 \u0407\u0406\u0308 \u040C\u041A\u0301 \u040D\u0418\u0300 \u040E\u0423\u0306",
   "\u0419\u0418\u0306 \u0439\u0438\u0306 \u0450\u0435\u0300 \u0451\u0435\u0308 \u0453\u0433\u0301",
   "\u0457\u0456\u0308 \u045C\u043A\u0301 \u045D\u0438\u0300 \u045E\u0443\u0306 \u0476\u0474\u030F",
   "\u0477\u0475\u030F \u04C1\u0416\u0306 \u04C2\u0436\u0306 \u04D0\u0410\u0306 \u04D1\u0430\u0306",
   "\u04D2\u0410\u0308 \u04D3\u0430\u0308 \u04D6\u0415\u0306 \u04D7\u0435\u0306 \u04DA\u04D8\u0308",
   "\u04DB\u04D9\u0308 \u04DC\u0416\u0308 \u04DD\u0436\u0308 \u04DE\u0417\u0308 \u04DF\u0437\u0308",
   "\u04E2\u0418\u0304 \u04E3\u0438\u0304 \u04E4\u0418\u0308 \u04E5\u0438\u0308 \u04E6\u041E\u0308",
   "\u04E7\u043E\u0308 \u04EA\u04E8\u0308 \u04EB\u04E9\u0308 \u04EC\u042D\u0308 \u04ED\u044D\u0308",
   "\u04EE\u0423\u0304 \u04EF\u0443\u0304 \u04F0\u0423\u0308 \u04F1\u0443\u0308 \u04F2\u0423\u030B",
   "\u04F3\u0443\u030B \u04F4\u0427\u0308 \u04F5\u0447\u0308 \u04F8\u042B\u0308 \u04F9\u044B\u0308",
   "\u0622\u0627\u0653 \u0623\u0627\u0654 \u0624\u0648\u0654 \u0625\u0627\u0655 \u0626\u064A\u0654",
   "\u06C0\u06D5\u0654 \u06C2\u06C1\u0654 \u06D3\u06D2\u0654 \u0929\u0928\u093C \u0931\u0930\u093C",
   "\u0934\u0933\u093C \u09CB\u09C7\u09BE \u09CC\u09C7\u09D7 \u0B48\u0B47\u0B56 \u0B4B\u0B47\u0B3E",
   "\u0B4C\u0B47\u0B57 \u0B94\u0B92\u0BD7 \u0BCA\u0BC6\u0BBE \u0BCB\u0BC7\u0BBE \u0BCC\u0BC6\u0BD7",
   "\u0C48\u0C46\u0C56 \u0CC0\u0CBF\u0CD5 \u0CC7\u0CC6\u0CD5 \u0CC8\u0CC6\u0CD6 \u0CCA\u0CC6\u0CC2",
   "\u0CCB\u0CCA\u0CD5 \u0D4A\u0D46\u0D3E \u0D4B\u0D47\u0D3E \u0D4C\u0D46\u0D57 \u0DDA\u0DD9\u0DCA",
   "\u0DDC\u0DD9\u0DCF \u0DDD\u0DDC\u0DCA \u0DDE\u0DD9\u0DDF \u1026\u1025\u102E \u1B06\u1B05\u1B35",
   "\u1B08\u1B07\u1B35 \u1B0A\u1B09\u1B35 \u1B0C\u1B0B\u1B35 \u1B0E\u1B0D\u1B35 \u1B12\u1B11\u1B35",
   "\u1B3B\u1B3A\u1B35 \u1B3D\u1B3C\u1B35 \u1B40\u1B3E\u1B35 \u1B41\u1B3F\u1B35 \u1B43\u1B42\u1B35",
   "\u1E00A\u0325 \u1E01a\u0325 \u1E02B\u0307 \u1E03b\u0307 \u1E04B\u0323 \u1E05b\u0323",
   "\u1E06B\u0331 \u1E07b\u0331 \u1E08\u00C7\u0301 \u1E09\u00E7\u0301 \u1E0AD\u0307 \u1E0Bd\u0307",
   "\u1E0CD\u0323 \u1E0Dd\u0323 \u1E0ED\u0331 \u1E0Fd\u0331 \u1E10D\u0327 \u1E11d\u0327",
   "\u1E12D\u032D \u1E13d\u032D \u1E14\u0112\u0300 \u1E15\u0113\u0300 \u1E16\u0112\u0301",
   "\u1E17\u0113\u0301 \u1E18E\u032D \u1E19e\u032D \u1E1AE\u0330 \u1E1Be\u0330 \u1E1C\u0228\u0306",
   "\u1E1D\u0229\u0306 \u1E1EF\u0307 \u1E1Ff\u0307 \u1E20G\u0304 \u1E21g\u0304 \u1E22H\u0307",
   "\u1E23h\u0307 \u1E24H\u0323 \u1E25h\u0323 \u1E26H\u0308 \u1E27h\u0308 \u1E28H\u0327",
   "\u1E29h\u0327 \u1E2AH\u032E \u1E2Bh\u032E \u1E2CI\u0330 \u1E2Di\u0330 \u1E2E\u00CF\u0301",
   "\u1E2F\u00EF\u0301 \u1E30K\u0301 \u1E31k\u0301 \u1E32K\u0323 \u1E33k\u0323 \u1E34K\u0331",
   "\u1E35k\u0331 \u1E36L\u0323 \u1E37l\u0323 \u1E38\u1E36\u0304 \u1E39\u1E37\u0304 \u1E3AL\u0331",
   "\u1E3Bl\u0331 \u1E3CL\u032D \u1E3Dl\u032D \u1E3EM\u0301 \u1E3Fm\u0301 \u1E40M\u0307",
   "\u1E41m\u0307 \u1E42M\u0323 \u1E43m\u0323 \u1E44N\u0307 \u1E45n\u0307 \u1E46N\u0323",
   "\u1E47n\u0323 \u1E48N\u0331 \u1E49n\u0331 \u1E4AN\u032D \u1E4Bn\u032D \u1E4C\u00D5\u0301",
   "\u1E4D\u00F5\u0301 \u1E4E\u00D5\u0308 \u1E4F\u00F5\u0308 \u1E50\u014C\u0300 \u1E51\u014D\u0300",
   "\u1E52\u014C\u0301 \u1E53\u014D\u0301 \u1E54P\u0301 \u1E55p\u0301 \u1E56P\u0307 \u1E57p\u0307",
   "\u1E58R\u0307 \u1E59r\u0307 \u1E5AR\u0323 \u1E5Br\u0323 \u1E5C\u1E5A\u0304 \u1E5D\u1E5B\u0304",
   "\u1E5ER\u0331 \u1E5Fr\u0331 \u1E60S\u0307 \u1E61s\u0307 \u1E62S\u0323 \u1E63s\u0323",
   "\u1E64\u015A\u0307 \u1E65\u015B\u0307 \u1E66\u0160\u0307 \u1E67\u0161\u0307 \u1E68\u1E62\u0307",
   "\u1E69\u1E63\u0307 \u1E6AT\u0307 \u1E6Bt\u0307 \u1E6CT\u0323 \u1E6Dt\u0323 \u1E6ET\u0331",
   "\u1E6Ft\u0331 \u1E70T\u032D \u1E71t\u032D \u1E72U\u0324 \u1E73u\u0324 \u1E74U\u0330",
   "\u1E75u\u0330 \u1E76U\u032D \u1E77u\u032D \u1E78\u0168\u0301 \u1E79\u0169\u0301",
   "\u1E7A\u016A\u0308 \u1E7B\u016B\u0308 \u1E7CV\u0303 \u1E7Dv\u0303 \u1E7EV\u0323 \u1E7Fv\u0323",
   "\u1E80W\u0300 \u1E81w\u0300 \u1E82W\u0301 \u1E83w\u0301 \u1E84W\u0308 \u1E85w\u0308",
   "\u1E86W\u0307 \u1E87w\u0307 \u1E88W\u0323 \u1E89w\u0323 \u1E8AX\u0307 \u1E8Bx\u0307",
   "\u1E8CX\u0308 \u1E8Dx\u0308 \u1E8EY\u0307 \u1E8Fy\u0307 \u1E90Z\u0302 \u1E91z\u0302",
   "\u1E92Z\u0323 \u1E93z\u0323 \u1E94Z\u0331 \u1E95z\u0331 \u1E96h\u0331 \u1E97t\u0308",
   "\u1E98w\u030A \u1E99y\u030A \u1E9B\u017F\u0307 \u1EA0A\u0323 \u1EA1a\u0323 \u1EA2A\u0309",
   "\u1EA3a\u0309 \u1EA4\u00C2\u0301 \u1EA5\u00E2\u0301 \u1EA6\u00C2\u0300 \u1EA7\u00E2\u0300",
   "\u1EA8\u00C2\u0309 \u1EA9\u00E2\u0309 \u1EAA\u00C2\u0303 \u1EAB\u00E2\u0303 \u1EAC\u1EA0\u0302",
   "\u1EAD\u1EA1\u0302 \u1EAE\u0102\u0301 \u1EAF\u0103\u0301 \u1EB0\u0102\u0300 \u1EB1\u0103\u0300",
   "\u1EB2\u0102\u0309 \u1EB3\u0103\u0309 \u1EB4\u0102\u0303 \u1EB5\u0103\u0303 \u1EB6\u1EA0\u0306",
   "\u1EB7\u1EA1\u0306 \u1EB8E\u0323 \u1EB9e\u0323 \u1EBAE\u0309 \u1EBBe\u0309 \u1EBCE\u0303",
   "\u1EBDe\u0303 \u1EBE\u00CA\u0301 \u1EBF\u00EA\u0301 \u1EC0\u00CA\u0300 \u1EC1\u00EA\u0300",
   "\u1EC2\u00CA\u0309 \u1EC3\u00EA\u0309 \u1EC4\u00CA\u0303 \u1EC5\u00EA\u0303 \u1EC6\u1EB8\u0302",
   "\u1EC7\u1EB9\u0302 \u1EC8I\u0309 \u1EC9i\u0309 \u1ECAI\u0323 \u1ECBi\u0323 \u1ECCO\u0323",
   "\u1ECDo\u0323 \u1ECEO\u0309 \u1ECFo\u0309 \u1ED0\u00D4\u0301 \u1ED1\u00F4\u0301",
   "\u1ED2\u00D4\u0300 \u1ED3\u00F4\u0300 \u1ED4\u00D4\u0309 \u1ED5\u00F4\u0309 \u1ED6\u00D4\u0303",
   "\u1ED7\u00F4\u0303 \u1ED8\u1ECC\u0302 \u1ED9\u1ECD\u0302 \u1EDA\u01A0\u0301 \u1EDB\u01A1\u0301",
   "\u1EDC\u01A0\u0300 \u1EDD\u01A1\u0300 \u1EDE\u01A0\u0309 \u1EDF\u01A1\u0309 \u1EE0\u01A0\u0303",
   "\u1EE1\u01A1\u0303 \u1EE2\u01A0\u0323 \u1EE3\u01A1\u0323 \u1EE4U\u0323 \u1EE5u\u0323",
   "\u1EE6U\u0309 \u1EE7u\u0309 \u1EE8\u01AF\u0301 \u1EE9\u01B0\u0301 \u1EEA\u01AF\u0300",
   "\u1EEB\u01B0\u0300 \u1EEC\u01AF\u0309 \u1EED\u01B0\u0309 \u1EEE\u01AF\u0303 \u1EEF\u01B0\u0303",
   "\u1EF0\u01AF\u0323 \u1EF1\u01B0\u0323 \u1EF2Y\u0300 \u1EF3y\u0300 \u1EF4Y\u0323 \u1EF5y\u0323",
   "\u1EF6Y\u0309 \u1EF7y\u0309 \u1EF8Y\u0303 \u1EF9y\u0303 \u1F00\u03B1\u0313 \u1F01\u03B1\u0314",
   "\u1F02\u1F00\u0300 \u1F03\u1F01\u0300 \u1F04\u1F00\u0301 \u1F05\u1F01\u0301 \u1F06\u1F00\u0342",
   "\u1F07\u1F01\u0342 \u1F08\u0391\u0313 \u1F09\u0391\u0314 \u1F0A\u1F08\u0300 \u1F0B\u1F09\u0300",
   "\u1F0C\u1F08\u0301 \u1F0D\u1F09\u0301 \u1F0E\u1F08\u0342 \u1F0F\u1F09\u0342 \u1F10\u03B5\u0313",
   "\u1F11\u03B5\u0314 \u1F12\u1F10\u0300 \u1F13\u1F11\u0300 \u1F14\u1F10\u0301 \u1F15\u1F11\u0301",
   "\u1F18\u0395\u0313 \u1F19\u0395\u0314 \u1F1A\u1F18\u0300 \u1F1B\u1F19\u0300 \u1F1C\u1F18\u0301",
   "\u1F1D\u1F19\u0301 \u1F20\u03B7\u0313 \u1F21\u03B7\u0314 \u1F22\u1F20\u0300 \u1F23\u1F21\u0300",
   "\u1F24\u1F20\u0301 \u1F25\u1F21\u0301 \u1F26\u1F20\u0342 \u1F27\u1F21\u0342 \u1F28\u0397\u0313",
   "\u1F29\u0397\u0314 \u1F2A\u1F28\u0300 \u1F2B\u1F29\u0300 \u1F2C\u1F28\u0301 \u1F2D\u1F29\u0301",
   "\u1F2E\u1F28\u0342 \u1F2F\u1F29\u0342 \u1F30\u03B9\u0313 \u1F31\u03B9\u0314 \u1F32\u1F30\u0300",
   "\u1F33\u1F31\u0300 \u1F34\u1F30\u0301 \u1F35\u1F31\u0301 \u1F36\u1F30\u0342 \u1F37\u1F31\u0342",
   "\u1F38\u0399\u0313 \u1F39\u0399\u0314 \u1F3A\u1F38\u0300 \u1F3B\u1F39\u0300 \u1F3C\u1F38\u0301",
   "\u1F3D\u1F39\u0301 \u1F3E\u1F38\u0342 \u1F3F\u1F39\u0342 \u1F40\u03BF\u0313 \u1F41\u03BF\u0314",
   "\u1F42\u1F40\u0300 \u1F43\u1F41\u0300 \u1F44\u1F40\u0301 \u1F45\u1F41\u0301 \u1F48\u039F\u0313",
   "\u1F49\u039F\u0314 \u1F4A\u1F48\u0300 \u1F4B\u1F49\u0300 \u1F4C\u1F48\u0301 \u1F4D\u1F49\u0301",
   "\u1F50\u03C5\u0313 \u1F51\u03C5\u0314 \u1F52\u1F50\u0300 \u1F53\u1F51\u0300 \u1F54\u1F50\u0301",
   "\u1F55\u1F51\u0301 \u1F56\u1F50\u0342 \u1F57\u1F51\u0342 \u1F59\u03A5\u0314 \u1F5B\u1F59\u0300",
   "\u1F5D\u1F59\u0301 \u1F5F\u1F59\u0342 \u1F60\u03C9\u0313 \u1F61\u03C9\u0314 \u1F62\u1F60\u0300",
   "\u1F63\u1F61\u0300 \u1F64\u1F60\u0301 \u1F65\u1F61\u0301 \u1F66\u1F60\u0342 \u1F67\u1F61\u0342",
   "\u1F68\u03A9\u0313 \u1F69\u03A9\u0314 \u1F6A\u1F68\u0300 \u1F6B\u1F69\u0300 \u1F6C\u1F68\u0301",
   "\u1F6D\u1F69\u0301 \u1F6E\u1F68\u0342 \u1F6F\u1F69\u0342 \u1F70\u03B1\u0300 \u1F72\u03B5\u0300",
   "\u1F74\u03B7\u0300 \u1F76\u03B9\u0300 \u1F78\u03BF\u0300 \u1F7A\u03C5\u0300 \u1F7C\u03C9\u0300",
   "\u1F80\u1F00\u0345 \u1F81\u1F01\u0345 \u1F82\u1F02\u0345 \u1F83\u1F03\u0345 \u1F84\u1F04\u0345",
   "\u1F85\u1F05\u0345 \u1F86\u1F06\u0345 \u1F87\u1F07\u0345 \u1F88\u1F08\u0345 \u1F89\u1F09\u0345",
   "\u1F8A\u1F0A\u0345 \u1F8B\u1F0B\u0345 \u1F8C\u1F0C\u0345 \u1F8D\u1F0D\u0345 \u1F8E\u1F0E\u0345",
   "\u1F8F\u1F0F\u0345 \u1F90\u1F20\u0345 \u1F91\u1F21\u0345 \u1F92\u1F22\u0345 \u1F93\u1F23\u0345",
   "\u1F94\u1F24\u0345 \u1F95\u1F25\u0345 \u1F96\u1F26\u0345 \u1F97\u1F27\u0345 \u1F98\u1F28\u0345",
   "\u1F99\u1F29\u0345 \u1F9A\u1F2A\u0345 \u1F9B\u1F2B\u0345 \u1F9C\u1F2C\u0345 \u1F9D\u1F2D\u0345",
   "\u1F9E\u1F2E\u0345 \u1F9F\u1F2F\u0345 \u1FA0\u1F60\u0345 \u1FA1\u1F61\u0345 \u1FA2\u1F62\u0345",
   "\u1FA3\u1F63\u0345 \u1FA4\u1F64\u0345 \u1FA5\u1F65\u0345 \u1FA6\u1F66\u0345 \u1FA7\u1F67\u0345",
   "\u1FA8\u1F68\u0345 \u1FA9\u1F69\u0345 \u1FAA\u1F6A\u0345 \u1FAB\u1F6B\u0345 \u1FAC\u1F6C\u0345",
   "\u1FAD\u1F6D\u0345 \u1FAE\u1F6E\u0345 \u1FAF\u1F6F\u0345 \u1FB0\u03B1\u0306 \u1FB1\u03B1\u0304",
   "\u1FB2\u1F70\u0345 \u1FB3\u03B1\u0345 \u1FB4\u03AC\u0345 \u1FB6\u03B1\u0342 \u1FB7\u1FB6\u0345",
   "\u1FB8\u0391\u0306 \u1FB9\u0391\u0304 \u1FBA\u0391\u0300 \u1FBC\u0391\u0345 \u1FC1\u00A8\u0342",
   "\u1FC2\u1F74\u0345 \u1FC3\u03B7\u0345 \u1FC4\u03AE\u0345 \u1FC6\u03B7\u0342 \u1FC7\u1FC6\u0345",
   "\u1FC8\u0395\u0300 \u1FCA\u0397\u0300 \u1FCC\u0397\u0345 \u1FCD\u1FBF\u0300 \u1FCE\u1FBF\u0301",
   "\u1FCF\u1FBF\u0342 \u1FD0\u03B9\u0306 \u1FD1\u03B9\u0304 \u1FD2\u03CA\u0300 \u1FD6\u03B9\u0342",
   "\u1FD7\u03CA\u0342 \u1FD8\u0399\u0306 \u1FD9\u0399\u0304 \u1FDA\u0399\u0300 \u1FDD\u1FFE\u0300",
   "\u1FDE\u1FFE\u0301 \u1FDF\u1FFE\u0342 \u1FE0\u03C5\u0306 \u1FE1\u03C5\u0304 \u1FE2\u03CB\u0300",
   "\u1FE4\u03C1\u0313 \u1FE5\u03C1\u0314 \u1FE6\u03C5\u0342 \u1FE7\u03CB\u0342 \u1FE8\u03A5\u0306",
   "\u1FE9\u03A5\u0304 \u1FEA\u03A5\u0300 \u1FEC\u03A1\u0314 \u1FED\u00A8\u0300 \u1FF2\u1F7C\u0345",
   "\u1FF3\u03C9\u0345 \u1FF4\u03CE\u0345 \u1FF6\u03C9\u0342 \u1FF7\u1FF6\u0345 \u1FF8\u039F\u0300",
   "\u1FFA\u03A9\u0300 \u1FFC\u03A9\u0345 \u219A\u2190\u0338 \u219B\u2192\u0338 \u21AE\u2194\u0338",
   "\u21CD\u21D0\u0338 \u21CE\u21D4\u0338 \u21CF\u21D2\u0338 \u2204\u2203\u0338 \u2209\u2208\u0338",
   "\u220C\u220B\u0338 \u2224\u2223\u0338 \u2226\u2225\u0338 \u2241\u223C\u0338 \u2244\u2243\u0338",
   "\u2247\u2245\u0338 \u2249\u2248\u0338 \u2260=\u0338 \u2262\u2261\u0338 \u226D\u224D\u0338",
   "\u226E<\u0338 \u226F>\u0338 \u2270\u2264\u0338 \u2271\u2265\u0338 \u2274\u2272\u0338",
   "\u2275\u2273\u0338 \u2278\u2276\u0338 \u2279\u2277\u0338 \u2280\u227A\u0338 \u2281\u227B\u0338",
   "\u2284\u2282\u0338 \u2285\u2283\u0338 \u2288\u2286\u0338 \u2289\u2287\u0338 \u22AC\u22A2\u0338",
   "\u22AD\u22A8\u0338 \u22AE\u22A9\u0338 \u22AF\u22AB\u0338 \u22E0\u227C\u0338 \u22E1\u227D\u0338",
   "\u22E2\u2291\u0338 \u22E3\u2292\u0338 \u22EA\u22B2\u0338 \u22EB\u22B3\u0338 \u22EC\u22B4\u0338",
   "\u22ED\u22B5\u0338 \u304C\u304B\u3099 \u304E\u304D\u3099 \u3050\u304F\u3099 \u3052\u3051\u3099",
   "\u3054\u3053\u3099 \u3056\u3055\u3099 \u3058\u3057\u3099 \u305A\u3059\u3099 \u305C\u305B\u3099",
   "\u305E\u305D\u3099 \u3060\u305F\u3099 \u3062\u3061\u3099 \u3065\u3064\u3099 \u3067\u3066\u3099",
   "\u3069\u3068\u3099 \u3070\u306F\u3099 \u3071\u306F\u309A \u3073\u3072\u3099 \u3074\u3072\u309A",
   "\u3076\u3075\u3099 \u3077\u3075\u309A \u3079\u3078\u3099 \u307A\u3078\u309A \u307C\u307B\u3099",
   "\u307D\u307B\u309A \u3094\u3046\u3099 \u309E\u309D\u3099 \u30AC\u30AB\u3099 \u30AE\u30AD\u3099",
   "\u30B0\u30AF\u3099 \u30B2\u30B1\u3099 \u30B4\u30B3\u3099 \u30B6\u30B5\u3099 \u30B8\u30B7\u3099",
   "\u30BA\u30B9\u3099 \u30BC\u30BB\u3099 \u30BE\u30BD\u3099 \u30C0\u30BF\u3099 \u30C2\u30C1\u3099",
   "\u30C5\u30C4\u3099 \u30C7\u30C6\u3099 \u30C9\u30C8\u3099 \u30D0\u30CF\u3099 \u30D1\u30CF\u309A",
   "\u30D3\u30D2\u3099 \u30D4\u30D2\u309A \u30D6\u30D5\u3099 \u30D7\u30D5\u309A \u30D9\u30D8\u3099",
   "\u30DA\u30D8\u309A \u30DC\u30DB\u3099 \u30DD\u30DB\u309A \u30F4\u30A6\u3099 \u30F7\u30EF\u3099",
   "\u30F8\u30F0\u3099 \u30F9\u30F1\u3099 \u30FA\u30F2\u3099 \u30FE\u30FD\u3099 𐗉𐗒\u0307 𐗤𐗚\u0307",
   "𑂚𑂚 𑂜𑂜 𑂫𑂫 𑄮𑄮 𑄯𑄯 𑍋𑍋 𑍌𑍌 𑎃𑎃 𑎅𑎅 𑎎𑎎 𑎑𑎑 𑏅𑏅 𑏇𑏇 𑏈𑏈 𑒻𑒻 𑒼𑒼 𑒾𑒾 𑖺𑖺 𑖻𑖻 𑤸𑤸 𖄡𖄡 𖄢𖄢 𖄣𖄣",
   "𖄤𖄤 𖄥𖄥 𖄦𖄦 𖄧𖄧 𖄨𖄨 𖵨𖵨 𖵩𖵩 𖵪𖵪"]

/-- Closed ranges of marks with their classes, in ascending order.  A character outside all ranges has
class zero. -/
def markClasses : List (Nat × Nat × Nat) :=
  [(0x300, 0x314, 230), (0x315, 0x315, 232), (0x316, 0x319, 220), (0x31A, 0x31A, 232),
   (0x31B, 0x31B, 216), (0x31C, 0x320, 220), (0x321, 0x322, 202), (0x323, 0x326, 220),
   (0x327, 0x328, 202), (0x329, 0x333, 220), (0x334, 0x338, 1), (0x339, 0x33C, 220),
   (0x33D, 0x344, 230), (0x345, 0x345, 240), (0x346, 0x346, 230), (0x347, 0x349, 220),
   (0x34A, 0x34C, 230), (0x34D, 0x34E, 220), (0x350, 0x352, 230), (0x353, 0x356, 220),
   (0x357, 0x357, 230), (0x358, 0x358, 232), (0x359, 0x35A, 220), (0x35B, 0x35B, 230),
   (0x35C, 0x35C, 233), (0x35D, 0x35E, 234), (0x35F, 0x35F, 233), (0x360, 0x361, 234),
   (0x362, 0x362, 233), (0x363, 0x36F, 230), (0x483, 0x487, 230), (0x591, 0x591, 220),
   (0x592, 0x595, 230), (0x596, 0x596, 220), (0x597, 0x599, 230), (0x59A, 0x59A, 222),
   (0x59B, 0x59B, 220), (0x59C, 0x5A1, 230), (0x5A2, 0x5A7, 220), (0x5A8, 0x5A9, 230),
   (0x5AA, 0x5AA, 220), (0x5AB, 0x5AC, 230), (0x5AD, 0x5AD, 222), (0x5AE, 0x5AE, 228),
   (0x5AF, 0x5AF, 230), (0x5B0, 0x5B0, 10), (0x5B1, 0x5B1, 11), (0x5B2, 0x5B2, 12),
   (0x5B3, 0x5B3, 13), (0x5B4, 0x5B4, 14), (0x5B5, 0x5B5, 15), (0x5B6, 0x5B6, 16),
   (0x5B7, 0x5B7, 17), (0x5B8, 0x5B8, 18), (0x5B9, 0x5BA, 19), (0x5BB, 0x5BB, 20),
   (0x5BC, 0x5BC, 21), (0x5BD, 0x5BD, 22), (0x5BF, 0x5BF, 23), (0x5C1, 0x5C1, 24),
   (0x5C2, 0x5C2, 25), (0x5C4, 0x5C4, 230), (0x5C5, 0x5C5, 220), (0x5C7, 0x5C7, 18),
   (0x610, 0x617, 230), (0x618, 0x618, 30), (0x619, 0x619, 31), (0x61A, 0x61A, 32),
   (0x64B, 0x64B, 27), (0x64C, 0x64C, 28), (0x64D, 0x64D, 29), (0x64E, 0x64E, 30),
   (0x64F, 0x64F, 31), (0x650, 0x650, 32), (0x651, 0x651, 33), (0x652, 0x652, 34),
   (0x653, 0x654, 230), (0x655, 0x656, 220), (0x657, 0x65B, 230), (0x65C, 0x65C, 220),
   (0x65D, 0x65E, 230), (0x65F, 0x65F, 220), (0x670, 0x670, 35), (0x6D6, 0x6DC, 230),
   (0x6DF, 0x6E2, 230), (0x6E3, 0x6E3, 220), (0x6E4, 0x6E4, 230), (0x6E7, 0x6E8, 230),
   (0x6EA, 0x6EA, 220), (0x6EB, 0x6EC, 230), (0x6ED, 0x6ED, 220), (0x711, 0x711, 36),
   (0x730, 0x730, 230), (0x731, 0x731, 220), (0x732, 0x733, 230), (0x734, 0x734, 220),
   (0x735, 0x736, 230), (0x737, 0x739, 220), (0x73A, 0x73A, 230), (0x73B, 0x73C, 220),
   (0x73D, 0x73D, 230), (0x73E, 0x73E, 220), (0x73F, 0x741, 230), (0x742, 0x742, 220),
   (0x743, 0x743, 230), (0x744, 0x744, 220), (0x745, 0x745, 230), (0x746, 0x746, 220),
   (0x747, 0x747, 230), (0x748, 0x748, 220), (0x749, 0x74A, 230), (0x7EB, 0x7F1, 230),
   (0x7F2, 0x7F2, 220), (0x7F3, 0x7F3, 230), (0x7FD, 0x7FD, 220), (0x816, 0x819, 230),
   (0x81B, 0x823, 230), (0x825, 0x827, 230), (0x829, 0x82D, 230), (0x859, 0x85B, 220),
   (0x897, 0x898, 230), (0x899, 0x89B, 220), (0x89C, 0x89F, 230), (0x8CA, 0x8CE, 230),
   (0x8CF, 0x8D3, 220), (0x8D4, 0x8E1, 230), (0x8E3, 0x8E3, 220), (0x8E4, 0x8E5, 230),
   (0x8E6, 0x8E6, 220), (0x8E7, 0x8E8, 230), (0x8E9, 0x8E9, 220), (0x8EA, 0x8EC, 230),
   (0x8ED, 0x8EF, 220), (0x8F0, 0x8F0, 27), (0x8F1, 0x8F1, 28), (0x8F2, 0x8F2, 29),
   (0x8F3, 0x8F5, 230), (0x8F6, 0x8F6, 220), (0x8F7, 0x8F8, 230), (0x8F9, 0x8FA, 220),
   (0x8FB, 0x8FF, 230), (0x93C, 0x93C, 7), (0x94D, 0x94D, 9), (0x951, 0x951, 230),
   (0x952, 0x952, 220), (0x953, 0x954, 230), (0x9BC, 0x9BC, 7), (0x9CD, 0x9CD, 9),
   (0x9FE, 0x9FE, 230), (0xA3C, 0xA3C, 7), (0xA4D, 0xA4D, 9), (0xABC, 0xABC, 7),
   (0xACD, 0xACD, 9), (0xB3C, 0xB3C, 7), (0xB4D, 0xB4D, 9), (0xBCD, 0xBCD, 9), (0xC3C, 0xC3C, 7),
   (0xC4D, 0xC4D, 9), (0xC55, 0xC55, 84), (0xC56, 0xC56, 91), (0xCBC, 0xCBC, 7),
   (0xCCD, 0xCCD, 9), (0xD3B, 0xD3C, 9), (0xD4D, 0xD4D, 9), (0xDCA, 0xDCA, 9),
   (0xE38, 0xE39, 103), (0xE3A, 0xE3A, 9), (0xE48, 0xE4B, 107), (0xEB8, 0xEB9, 118),
   (0xEBA, 0xEBA, 9), (0xEC8, 0xECB, 122), (0xF18, 0xF19, 220), (0xF35, 0xF35, 220),
   (0xF37, 0xF37, 220), (0xF39, 0xF39, 216), (0xF71, 0xF71, 129), (0xF72, 0xF72, 130),
   (0xF74, 0xF74, 132), (0xF7A, 0xF7D, 130), (0xF80, 0xF80, 130), (0xF82, 0xF83, 230),
   (0xF84, 0xF84, 9), (0xF86, 0xF87, 230), (0xFC6, 0xFC6, 220), (0x1037, 0x1037, 7),
   (0x1039, 0x103A, 9), (0x108D, 0x108D, 220), (0x135D, 0x135F, 230), (0x1714, 0x1715, 9),
   (0x1734, 0x1734, 9), (0x17D2, 0x17D2, 9), (0x17DD, 0x17DD, 230), (0x18A9, 0x18A9, 228),
   (0x1939, 0x1939, 222), (0x193A, 0x193A, 230), (0x193B, 0x193B, 220), (0x1A17, 0x1A17, 230),
   (0x1A18, 0x1A18, 220), (0x1A60, 0x1A60, 9), (0x1A75, 0x1A7C, 230), (0x1A7F, 0x1A7F, 220),
   (0x1AB0, 0x1AB4, 230), (0x1AB5, 0x1ABA, 220), (0x1ABB, 0x1ABC, 230), (0x1ABD, 0x1ABD, 220),
   (0x1ABF, 0x1AC0, 220), (0x1AC1, 0x1AC2, 230), (0x1AC3, 0x1AC4, 220), (0x1AC5, 0x1AC9, 230),
   (0x1ACA, 0x1ACA, 220), (0x1ACB, 0x1ADC, 230), (0x1ADD, 0x1ADD, 220), (0x1AE0, 0x1AE5, 230),
   (0x1AE6, 0x1AE6, 220), (0x1AE7, 0x1AEA, 230), (0x1AEB, 0x1AEB, 234), (0x1B34, 0x1B34, 7),
   (0x1B44, 0x1B44, 9), (0x1B6B, 0x1B6B, 230), (0x1B6C, 0x1B6C, 220), (0x1B6D, 0x1B73, 230),
   (0x1BAA, 0x1BAB, 9), (0x1BE6, 0x1BE6, 7), (0x1BF2, 0x1BF3, 9), (0x1C37, 0x1C37, 7),
   (0x1CD0, 0x1CD2, 230), (0x1CD4, 0x1CD4, 1), (0x1CD5, 0x1CD9, 220), (0x1CDA, 0x1CDB, 230),
   (0x1CDC, 0x1CDF, 220), (0x1CE0, 0x1CE0, 230), (0x1CE2, 0x1CE8, 1), (0x1CED, 0x1CED, 220),
   (0x1CF4, 0x1CF4, 230), (0x1CF8, 0x1CF9, 230), (0x1DC0, 0x1DC1, 230), (0x1DC2, 0x1DC2, 220),
   (0x1DC3, 0x1DC9, 230), (0x1DCA, 0x1DCA, 220), (0x1DCB, 0x1DCC, 230), (0x1DCD, 0x1DCD, 234),
   (0x1DCE, 0x1DCE, 214), (0x1DCF, 0x1DCF, 220), (0x1DD0, 0x1DD0, 202), (0x1DD1, 0x1DF5, 230),
   (0x1DF6, 0x1DF6, 232), (0x1DF7, 0x1DF8, 228), (0x1DF9, 0x1DF9, 220), (0x1DFA, 0x1DFA, 218),
   (0x1DFB, 0x1DFB, 230), (0x1DFC, 0x1DFC, 233), (0x1DFD, 0x1DFD, 220), (0x1DFE, 0x1DFE, 230),
   (0x1DFF, 0x1DFF, 220), (0x20D0, 0x20D1, 230), (0x20D2, 0x20D3, 1), (0x20D4, 0x20D7, 230),
   (0x20D8, 0x20DA, 1), (0x20DB, 0x20DC, 230), (0x20E1, 0x20E1, 230), (0x20E5, 0x20E6, 1),
   (0x20E7, 0x20E7, 230), (0x20E8, 0x20E8, 220), (0x20E9, 0x20E9, 230), (0x20EA, 0x20EB, 1),
   (0x20EC, 0x20EF, 220), (0x20F0, 0x20F0, 230), (0x2CEF, 0x2CF1, 230), (0x2D7F, 0x2D7F, 9),
   (0x2DE0, 0x2DFF, 230), (0x302A, 0x302A, 218), (0x302B, 0x302B, 228), (0x302C, 0x302C, 232),
   (0x302D, 0x302D, 222), (0x302E, 0x302F, 224), (0x3099, 0x309A, 8), (0xA66F, 0xA66F, 230),
   (0xA674, 0xA67D, 230), (0xA69E, 0xA69F, 230), (0xA6F0, 0xA6F1, 230), (0xA806, 0xA806, 9),
   (0xA82C, 0xA82C, 9), (0xA8C4, 0xA8C4, 9), (0xA8E0, 0xA8F1, 230), (0xA92B, 0xA92D, 220),
   (0xA953, 0xA953, 9), (0xA9B3, 0xA9B3, 7), (0xA9C0, 0xA9C0, 9), (0xAAB0, 0xAAB0, 230),
   (0xAAB2, 0xAAB3, 230), (0xAAB4, 0xAAB4, 220), (0xAAB7, 0xAAB8, 230), (0xAABE, 0xAABF, 230),
   (0xAAC1, 0xAAC1, 230), (0xAAF6, 0xAAF6, 9), (0xABED, 0xABED, 9), (0xFB1E, 0xFB1E, 26),
   (0xFE20, 0xFE26, 230), (0xFE27, 0xFE2D, 220), (0xFE2E, 0xFE2F, 230), (0x101FD, 0x101FD, 220),
   (0x102E0, 0x102E0, 220), (0x10376, 0x1037A, 230), (0x10A0D, 0x10A0D, 220),
   (0x10A0F, 0x10A0F, 230), (0x10A38, 0x10A38, 230), (0x10A39, 0x10A39, 1),
   (0x10A3A, 0x10A3A, 220), (0x10A3F, 0x10A3F, 9), (0x10AE5, 0x10AE5, 230),
   (0x10AE6, 0x10AE6, 220), (0x10D24, 0x10D27, 230), (0x10D69, 0x10D6D, 230),
   (0x10EAB, 0x10EAC, 230), (0x10EFA, 0x10EFB, 220), (0x10EFD, 0x10EFF, 220),
   (0x10F46, 0x10F47, 220), (0x10F48, 0x10F4A, 230), (0x10F4B, 0x10F4B, 220),
   (0x10F4C, 0x10F4C, 230), (0x10F4D, 0x10F50, 220), (0x10F82, 0x10F82, 230),
   (0x10F83, 0x10F83, 220), (0x10F84, 0x10F84, 230), (0x10F85, 0x10F85, 220),
   (0x11046, 0x11046, 9), (0x11070, 0x11070, 9), (0x1107F, 0x1107F, 9), (0x110B9, 0x110B9, 9),
   (0x110BA, 0x110BA, 7), (0x11100, 0x11102, 230), (0x11133, 0x11134, 9), (0x11173, 0x11173, 7),
   (0x111C0, 0x111C0, 9), (0x111CA, 0x111CA, 7), (0x11235, 0x11235, 9), (0x11236, 0x11236, 7),
   (0x112E9, 0x112E9, 7), (0x112EA, 0x112EA, 9), (0x1133B, 0x1133C, 7), (0x1134D, 0x1134D, 9),
   (0x11366, 0x1136C, 230), (0x11370, 0x11374, 230), (0x113CE, 0x113D0, 9),
   (0x11442, 0x11442, 9), (0x11446, 0x11446, 7), (0x1145E, 0x1145E, 230), (0x114C2, 0x114C2, 9),
   (0x114C3, 0x114C3, 7), (0x115BF, 0x115BF, 9), (0x115C0, 0x115C0, 7), (0x1163F, 0x1163F, 9),
   (0x116B6, 0x116B6, 9), (0x116B7, 0x116B7, 7), (0x1172B, 0x1172B, 9), (0x11839, 0x11839, 9),
   (0x1183A, 0x1183A, 7), (0x1193D, 0x1193E, 9), (0x11943, 0x11943, 7), (0x119E0, 0x119E0, 9),
   (0x11A34, 0x11A34, 9), (0x11A47, 0x11A47, 9), (0x11A99, 0x11A99, 9), (0x11C3F, 0x11C3F, 9),
   (0x11D42, 0x11D42, 7), (0x11D44, 0x11D45, 9), (0x11D97, 0x11D97, 9), (0x11F41, 0x11F42, 9),
   (0x1612F, 0x1612F, 9), (0x16AF0, 0x16AF4, 1), (0x16B30, 0x16B36, 230), (0x16FF0, 0x16FF1, 6),
   (0x1BC9E, 0x1BC9E, 1), (0x1D165, 0x1D166, 216), (0x1D167, 0x1D169, 1),
   (0x1D16D, 0x1D16D, 226), (0x1D16E, 0x1D172, 216), (0x1D17B, 0x1D182, 220),
   (0x1D185, 0x1D189, 230), (0x1D18A, 0x1D18B, 220), (0x1D1AA, 0x1D1AD, 230),
   (0x1D242, 0x1D244, 230), (0x1E000, 0x1E006, 230), (0x1E008, 0x1E018, 230),
   (0x1E01B, 0x1E021, 230), (0x1E023, 0x1E024, 230), (0x1E026, 0x1E02A, 230),
   (0x1E08F, 0x1E08F, 230), (0x1E130, 0x1E136, 230), (0x1E2AE, 0x1E2AE, 230),
   (0x1E2EC, 0x1E2EF, 230), (0x1E4EC, 0x1E4ED, 232), (0x1E4EE, 0x1E4EE, 220),
   (0x1E4EF, 0x1E4EF, 230), (0x1E5EE, 0x1E5EE, 230), (0x1E5EF, 0x1E5EF, 220),
   (0x1E6E3, 0x1E6E3, 230), (0x1E6E6, 0x1E6E6, 230), (0x1E6EE, 0x1E6EF, 230),
   (0x1E6F5, 0x1E6F5, 230), (0x1E8D0, 0x1E8D6, 220), (0x1E944, 0x1E949, 230),
   (0x1E94A, 0x1E94A, 7)]

end ImportCensus.Text
